import EntityDiagram.Deck.Xml

/-! # The fixed parts of a deck

Everything in a deck that does not depend on its slide: a presentation of one slide with one master,
one layout that has a title only, and a theme. Slides are ten by seven and a half inches.
-/

namespace EntityDiagram.Deck

open Xml

def schema (name : String) : String := "http://schemas.openxmlformats.org/" ++ name

def drawing : String := schema "drawingml/2006/main"

def linking : String := schema "officeDocument/2006/relationships"

def presenting : String := schema "presentationml/2006/main"

/-- The names that drawings, links and presentations have in the parts that use all three. -/
def namespaces : List (String × String) :=
  [("xmlns:a", drawing), ("xmlns:r", linking), ("xmlns:p", presenting)]

/-- A part that lists what another part refers to: a kind and a target for each link, numbered from
one. -/
def links (targets : List (String × String)) : Xml :=
  node "Relationships" [("xmlns", schema "package/2006/relationships")]
    (targets.zipIdx.map fun ((kind, target), i) =>
      leaf "Relationship" [("Id", "rId" ++ toString (i + 1)), ("Type", schema kind),
        ("Target", target)])

def office (kind : String) : String := "officeDocument/2006/relationships/" ++ kind

/-- The kind of content of each part, by its extension or its name. -/
def contentTypes : Xml :=
  node "Types" [("xmlns", schema "package/2006/content-types")]
    (byExtension.map (fun (extension, kind) =>
        leaf "Default" [("Extension", extension), ("ContentType", kind)]) ++
      byName.map fun (name, kind) =>
        leaf "Override" [("PartName", name),
          ("ContentType", "application/vnd.openxmlformats-" ++ kind ++ "+xml")])
where
  byExtension : List (String × String) :=
    [("rels", "application/vnd.openxmlformats-package.relationships+xml"),
      ("xml", "application/xml"),
      ("png", "image/png")]
  byName : List (String × String) :=
    [("/ppt/presentation.xml",
        "officedocument.presentationml.presentation.main"),
      ("/ppt/slideMasters/slideMaster1.xml",
        "officedocument.presentationml.slideMaster"),
      ("/ppt/slideLayouts/slideLayout1.xml",
        "officedocument.presentationml.slideLayout"),
      ("/ppt/slides/slide1.xml",
        "officedocument.presentationml.slide"),
      ("/ppt/theme/theme1.xml",
        "officedocument.theme"),
      ("/docProps/core.xml",
        "package.core-properties"),
      ("/docProps/app.xml",
        "officedocument.extended-properties")]

/-- The shapes of a page, after the group that holds them all. -/
def shapeTree (shapes : List Xml) : Xml :=
  node "p:spTree" [] (
    node "p:nvGrpSpPr" [] [
      leaf "p:cNvPr" [("id", "1"), ("name", "")],
      leaf "p:cNvGrpSpPr" [],
      leaf "p:nvPr" []] ::
    leaf "p:grpSpPr" [] ::
    shapes)

/-- The place of the title. -/
def titleShape (name : String) (properties body : Xml) (paragraph : Xml) : Xml :=
  node "p:sp" [] [
    node "p:nvSpPr" [] [
      leaf "p:cNvPr" [("id", "2"), ("name", name)],
      node "p:cNvSpPr" [] [leaf "a:spLocks" [("noGrp", "1")]],
      node "p:nvPr" [] [leaf "p:ph" [("type", "title")]]],
    properties,
    node "p:txBody" [] [body, leaf "a:lstStyle" [], node "a:p" [] [paragraph]]]

/-- A rectangle at a place and of a size. -/
def rectangle (left top width height : String) : Xml :=
  node "p:spPr" [] [
    node "a:xfrm" [] [
      leaf "a:off" [("x", left), ("y", top)],
      leaf "a:ext" [("cx", width), ("cy", height)]],
    node "a:prstGeom" [("prst", "rect")] [leaf "a:avLst" []]]

def noText : Xml := leaf "a:endParaRPr" [("lang", "en-US")]

def packageLinks : Xml :=
  links [(office "officeDocument", "ppt/presentation.xml"),
    ("package/2006/relationships/metadata/core-properties", "docProps/core.xml"),
    (office "extended-properties", "docProps/app.xml")]

def application : Xml :=
  node "Properties" [("xmlns", schema "officeDocument/2006/extended-properties")] [
    node "Application" [] [.text "erdraft"],
    node "Slides" [] [.text "1"]]

def core : Xml :=
  node "cp:coreProperties" [("xmlns:cp", schema "package/2006/metadata/core-properties"),
    ("xmlns:dc", "http://purl.org/dc/elements/1.1/")] [
    node "dc:title" [] [.text "Entity-Relationship Diagram"],
    node "dc:creator" [] [.text "erdraft"]]

def presentation : Xml :=
  node "p:presentation" namespaces [
    node "p:sldMasterIdLst" [] [leaf "p:sldMasterId" [("id", "2147483648"), ("r:id", "rId1")]],
    node "p:sldIdLst" [] [leaf "p:sldId" [("id", "256"), ("r:id", "rId2")]],
    leaf "p:sldSz" [("cx", "9144000"), ("cy", "6858000"), ("type", "screen4x3")],
    leaf "p:notesSz" [("cx", "6858000"), ("cy", "9144000")]]

def presentationLinks : Xml :=
  links [(office "slideMaster", "slideMasters/slideMaster1.xml"),
    (office "slide", "slides/slide1.xml"),
    (office "theme", "theme/theme1.xml")]

def master : Xml :=
  node "p:sldMaster" namespaces [
    node "p:cSld" [] [
      shapeTree [
        titleShape "Title Placeholder 1" (rectangle "457200" "274638" "8229600" "640080")
          (leaf "a:bodyPr" [("anchor", "ctr")]) noText]],
    leaf "p:clrMap" [("bg1", "lt1"), ("tx1", "dk1"), ("bg2", "lt2"), ("tx2", "dk2"),
      ("accent1", "accent1"), ("accent2", "accent2"), ("accent3", "accent3"),
      ("accent4", "accent4"), ("accent5", "accent5"), ("accent6", "accent6"),
      ("hlink", "hlink"), ("folHlink", "folHlink")],
    node "p:sldLayoutIdLst" [] [leaf "p:sldLayoutId" [("id", "2147483649"), ("r:id", "rId1")]],
    node "p:txStyles" [] [
      node "p:titleStyle" [] [
        node "a:lvl1pPr" [("algn", "ctr")] [leaf "a:defRPr" [("sz", "3200")]]],
      node "p:bodyStyle" [] [node "a:lvl1pPr" [] [leaf "a:defRPr" [("sz", "2000")]]],
      node "p:otherStyle" [] [node "a:lvl1pPr" [] [leaf "a:defRPr" [("sz", "1800")]]]]]

def masterLinks : Xml :=
  links [(office "slideLayout", "../slideLayouts/slideLayout1.xml"),
    (office "theme", "../theme/theme1.xml")]

def layout : Xml :=
  node "p:sldLayout" (namespaces ++ [("type", "titleOnly"), ("preserve", "1")]) [
    node "p:cSld" [("name", "Title Only")] [
      shapeTree [titleShape "Title 1" (leaf "p:spPr" []) (leaf "a:bodyPr" []) noText]],
    node "p:clrMapOvr" [] [leaf "a:masterClrMapping" []]]

def layoutLinks : Xml :=
  links [(office "slideMaster", "../slideMasters/slideMaster1.xml")]

def colour (name value : String) : Xml := node name [] [leaf "a:srgbClr" [("val", value)]]

def font (name : String) : Xml :=
  node name [] [
    leaf "a:latin" [("typeface", "Calibri")],
    leaf "a:ea" [("typeface", "")],
    leaf "a:cs" [("typeface", "")]]

def solidFill : Xml := node "a:solidFill" [] [leaf "a:schemeClr" [("val", "phClr")]]

def theme : Xml :=
  node "a:theme" [("xmlns:a", drawing), ("name", "Office Theme")] [
    node "a:themeElements" [] [
      node "a:clrScheme" [("name", "Office")] [
        node "a:dk1" [] [leaf "a:sysClr" [("val", "windowText"), ("lastClr", "000000")]],
        node "a:lt1" [] [leaf "a:sysClr" [("val", "window"), ("lastClr", "FFFFFF")]],
        colour "a:dk2" "1F497D",
        colour "a:lt2" "EEECE1",
        colour "a:accent1" "4F81BD",
        colour "a:accent2" "C0504D",
        colour "a:accent3" "9BBB59",
        colour "a:accent4" "8064A2",
        colour "a:accent5" "4BACC6",
        colour "a:accent6" "F79646",
        colour "a:hlink" "0000FF",
        colour "a:folHlink" "800080"],
      node "a:fontScheme" [("name", "Office")] [
        font "a:majorFont",
        font "a:minorFont"],
      node "a:fmtScheme" [("name", "Office")] [
        node "a:fillStyleLst" [] [solidFill, solidFill, solidFill],
        node "a:lnStyleLst" [] [
          node "a:ln" [("w", "9525")] [solidFill],
          node "a:ln" [("w", "25400")] [solidFill],
          node "a:ln" [("w", "38100")] [solidFill]],
        node "a:effectStyleLst" [] [
          node "a:effectStyle" [] [leaf "a:effectLst" []],
          node "a:effectStyle" [] [leaf "a:effectLst" []],
          node "a:effectStyle" [] [leaf "a:effectLst" []]],
        node "a:bgFillStyleLst" [] [solidFill, solidFill, solidFill]]],
    leaf "a:objectDefaults" [],
    leaf "a:extraClrSchemeLst" []]

def slideLinks : Xml :=
  links [(office "slideLayout", "../slideLayouts/slideLayout1.xml"),
    (office "image", "../media/image1.png")]

end EntityDiagram.Deck
