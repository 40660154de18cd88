import EntityDiagram.Deck.Fixed
import EntityDiagram.Files.Archive

/-! # Decks of one slide

A slide has a title and one picture, placed in units of which an inch has 914400. A deck is an
archive of fourteen parts, of which only the slide and the picture's data vary.
-/

namespace EntityDiagram

structure Picture where
  data : List UInt8
  left : Int
  top : Int
  width : Int
  height : Int
  deriving DecidableEq, Repr

structure Slide where
  title : String
  picture : Picture
  deriving DecidableEq, Repr

namespace Slide

open Xml Deck

def titleRun (title : String) : Xml :=
  node "a:r" [] [leaf "a:rPr" [("lang", "en-US")], node "a:t" [] [.text title]]

def pictureShape (picture : Picture) : Xml :=
  node "p:pic" [] [
    node "p:nvPicPr" [] [
      leaf "p:cNvPr" [("id", "3"), ("name", "Picture 2")],
      node "p:cNvPicPr" [] [leaf "a:picLocks" [("noChangeAspect", "1")]],
      leaf "p:nvPr" []],
    node "p:blipFill" [] [
      leaf "a:blip" [("r:embed", "rId2")],
      node "a:stretch" [] [leaf "a:fillRect" []]],
    rectangle (toString picture.left) (toString picture.top) (toString picture.width)
      (toString picture.height)]

def toXml (s : Slide) : Xml :=
  node "p:sld" namespaces [
    node "p:cSld" [] [
      shapeTree [
        titleShape "Title 1" (leaf "p:spPr" []) (leaf "a:bodyPr" []) (titleRun s.title),
        pictureShape s.picture]],
    node "p:clrMapOvr" [] [leaf "a:masterClrMapping" []]]

def text (s : Slide) : String := s.toXml.document

end Slide

namespace Deck

def slideName : String := "ppt/slides/slide1.xml"

def imageName : String := "ppt/media/image1.png"

def documents (s : Slide) : List (String × Xml) :=
  [("[Content_Types].xml", contentTypes),
    ("_rels/.rels", packageLinks),
    ("docProps/app.xml", application),
    ("docProps/core.xml", core),
    ("ppt/presentation.xml", presentation),
    ("ppt/_rels/presentation.xml.rels", presentationLinks),
    ("ppt/slideMasters/slideMaster1.xml", master),
    ("ppt/slideMasters/_rels/slideMaster1.xml.rels", masterLinks),
    ("ppt/slideLayouts/slideLayout1.xml", layout),
    ("ppt/slideLayouts/_rels/slideLayout1.xml.rels", layoutLinks),
    ("ppt/theme/theme1.xml", theme),
    (slideName, s.toXml),
    ("ppt/slides/_rels/slide1.xml.rels", slideLinks)]

def parts (s : Slide) : List Part :=
  (documents s).map (fun (name, root) => ⟨name, Text.encode root.document.toList⟩) ++
    [⟨imageName, s.picture.data⟩]

end Deck

end EntityDiagram
