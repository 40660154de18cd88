import EntityDiagram.Proofs.Deck.Search
import EntityDiagram.Proofs.Deck.Slide
import EntityDiagram.Proofs.Json.Printing
import EntityDiagram.Proofs.Text.Utf8

/-! # Reading decks back

The parts of a deck have fixed names in a fixed order, and all but two of them fixed data. The
picture's data is a part of its own, and the title and the four numbers are in the slide, where each
is found behind the first tag of its element. So a deck is read back, and no two slides have one.
-/

namespace EntityDiagram

open Text Xml

namespace Slide

/-! ## Readers -/

/-- The number that the text is in decimal digits, with a minus sign if it is negative. -/
def integer? (cs : List Char) : Option Int :=
  match Json.number? cs with
  | some (.whole n, []) => some n
  | _ => none

/-- What stands in the first `a:t`, without escapes. -/
def title? (cs : List Char) : Option String := do
  let (_, rest) ← cutAt? "<a:t>".toList cs
  let (content, _) ← cutAt? "</a:t>".toList rest
  return String.ofList (unescapeMarkup content)

/-- The number that an attribute has, and what follows it. -/
def value? (name : String) (cs : List Char) : Option (Int × List Char) := do
  let rest ← dropStart? (name.toList ++ ['=', '"']) cs
  let (digits, rest) ← cutAt? ['"'] rest
  let n ← integer? digits
  return (n, rest)

/-- The two attributes of the first element with that name. -/
def pair? (element first second : String) (cs : List Char) : Option (Int × Int) := do
  let (_, rest) ← cutAt? (tagMark element ' ') cs
  let (x, rest) ← value? first rest
  let rest ← dropStart? [' '] rest
  let (y, _) ← value? second rest
  return (x, y)

/-- The title, the place and the size that a slide's data shows. -/
def read? (data : List UInt8) : Option (String × (Int × Int) × (Int × Int)) := do
  let cs ← decode? data
  let title ← title? cs
  let place ← pair? "a:off" "x" "y" cs
  let size ← pair? "a:ext" "cx" "cy" cs
  return (title, place, size)

/-! ## What they read -/

theorem integer?_toString (n : Int) : integer? (toString n).toList = some n := by
  have read := Json.number?_append (Json.numberSpelled_toString n) stops_nil
  rw [List.append_nil] at read
  rw [integer?, read]

theorem plain_toString (n : Int) : ∀ c ∈ (toString n).toList, c ∉ ['&', '<', '>', '"'] := by
  intro c inside special
  have other : ['&', '<', '>', '"'].all (fun c => !c.isDigit && c != '-') = true := by decide
  have unspelled := List.all_eq_true.mp other c special
  rcases digit_or_minus inside with digit | rfl
  · rw [digit] at unspelled
    cases unspelled
  · cases unspelled

theorem value?_append (name : String) (n : Int) (rest : List Char) :
    value? name (name.toList ++ (['=', '"'] ++ (escapeMarkup (toString n) ++ (['"'] ++ rest)))) =
      some (n, rest) := by
  -- The digits are written without escapes, and no quote is among them.
  have plain := plain_toString n
  have skips : Skips ['"'] (toString n).toList :=
    skips_of_not_mem [] fun inside => plain '"' inside (by decide)
  rw [escapeMarkup_of_plain plain, ← List.append_assoc, value?]
  simp only [dropStart?_append, skips.cutAt?, integer?_toString, Option.bind_eq_bind,
    Option.bind_some]
  rfl

/-- Two numbers are read where the tree has its first element with that name. -/
theorem pair?_document {x : Xml} {element first second : String} {m n : Int} (tidy : x.valid = true)
    (named : isName element.toList = true)
    (found : x.first? element =
      some (leaf element [(first, toString m), (second, toString n)])) :
    pair? element first second x.document.toList = some (m, n) := by
  have finds := finds_document (c := ' ') named (by decide) x tidy
  rw [found] at finds
  obtain ⟨before, after, written, skips⟩ := finds
  have rendered : (leaf element [(first, toString m), (second, toString n)]).render ++ after =
      tagMark element ' ' ++ (first.toList ++ (['=', '"'] ++ (escapeMarkup (toString m) ++ (['"'] ++
        ([' '] ++ (second.toList ++ (['=', '"'] ++ (escapeMarkup (toString n) ++ (['"'] ++
          (['/', '>'] ++ after)))))))))) := by
    simp [leaf, render_leaf, attributeText, tagMark]
  rw [written, rendered, pair?]
  simp only [skips.cutAt?, value?_append, dropStart?_append, Option.bind_eq_bind, Option.bind_some]
  rfl

theorem title?_document {x : Xml} {title : String} (tidy : x.valid = true)
    (found : x.first? "a:t" = some (node "a:t" [] [.text title])) :
    title? x.document.toList = some title := by
  have named : isName "a:t".toList = true := by decide
  have finds := finds_document (c := '>') named (by decide) x tidy
  rw [found] at finds
  obtain ⟨before, after, written, skips⟩ := finds
  have opening : openTag "a:t" [] = "<a:t>".toList := by decide
  have closing : closeTag "a:t" = "</a:t>".toList := by decide
  have mark : tagMark "a:t" '>' = "<a:t>".toList := by decide
  have held : renderAll [.text title] = escapeMarkup title := renderAll_singleton _
  have rendered : (node "a:t" [] [.text title]).render ++ after =
      "<a:t>".toList ++ (escapeMarkup title ++ ("</a:t>".toList ++ after)) := by
    rw [node, render_paired _ _ (List.cons_ne_nil _ _), opening, closing, held]
    simp only [List.append_assoc]
  -- No tag begins in an escaped title, so the next closing tag is its own.
  have ends : Skips "</a:t>".toList (escapeMarkup title) :=
    skips_of_not_mem _ (not_mem_escapeMarkup title)
  rw [mark] at skips
  rw [written, rendered, title?]
  simp only [skips.cutAt?, ends.cutAt?, Option.bind_eq_bind, Option.bind_some,
    unescapeMarkup_escapeMarkup, String.ofList_toList]
  rfl

theorem read?_of_text {data : List UInt8} {cs : List Char} {title : String}
    {place size : Int × Int} (decoded : decode? data = some cs) (titled : title? cs = some title)
    (placed : pair? "a:off" "x" "y" cs = some place)
    (sized : pair? "a:ext" "cx" "cy" cs = some size) : read? data = some (title, place, size) := by
  rw [read?, decoded]
  simp only [Option.bind_eq_bind, Option.bind_some, titled, placed, sized]
  rfl

theorem read?_text (s : Slide) :
    read? (encode s.text.toList) = some (s.title, (s.picture.left, s.picture.top),
      (s.picture.width, s.picture.height)) := by
  have title : title? s.text.toList = some s.title := title?_document s.valid_toXml rfl
  have place : pair? "a:off" "x" "y" s.text.toList = some (s.picture.left, s.picture.top) :=
    pair?_document s.valid_toXml (by decide) rfl
  have size : pair? "a:ext" "cx" "cy" s.text.toList = some (s.picture.width, s.picture.height) :=
    pair?_document s.valid_toXml (by decide) rfl
  exact read?_of_text (decode?_encode _) title place size

end Slide

namespace Deck

/-! ## Decks -/

/-- The names of a deck's parts in their order. -/
def partNames : List String :=
  ["[Content_Types].xml", "_rels/.rels", "docProps/app.xml", "docProps/core.xml",
    "ppt/presentation.xml", "ppt/_rels/presentation.xml.rels",
    "ppt/slideMasters/slideMaster1.xml", "ppt/slideMasters/_rels/slideMaster1.xml.rels",
    "ppt/slideLayouts/slideLayout1.xml", "ppt/slideLayouts/_rels/slideLayout1.xml.rels",
    "ppt/theme/theme1.xml", slideName, "ppt/slides/_rels/slide1.xml.rels", imageName]

/-- The data of the part with that name. -/
def data? (name : String) (parts : List Part) : Option (List UInt8) :=
  (parts.find? (·.name = name)).map (·.data)

/-- All parts but the slide and the image. -/
def fixed (parts : List Part) : List Part :=
  parts.filter fun part => part.name ∉ [slideName, imageName]

def read? (parts : List Part) : Option Slide := do
  let slide ← data? slideName parts
  let (title, (left, top), (width, height)) ← Slide.read? slide
  let data ← data? imageName parts
  return { title, picture := { data, left, top, width, height } }

theorem names_parts (s : Slide) : (parts s).map (·.name) = partNames := rfl

def ofDocument (document : String × Xml) : Part :=
  { name := document.1, data := encode document.2.document.toList }

theorem parts_eq (s : Slide) :
    parts s = (documents s).map ofDocument ++ [⟨imageName, s.picture.data⟩] := rfl

theorem data?_parts (name : String) (s : Slide) :
    data? name (parts s) =
      (((documents s).find? (·.1 = name)).map fun document => (ofDocument document).data).or
        (data? name [⟨imageName, s.picture.data⟩]) := by
  have among : ((documents s).map ofDocument).find? (·.name = name) =
      ((documents s).find? (·.1 = name)).map ofDocument := by
    rw [List.find?_map]
    rfl
  rw [data?, data?, parts_eq, List.find?_append, among, Option.map_or, Option.map_map]
  rfl

theorem data?_slide (s : Slide) : data? slideName (parts s) = some (encode s.text.toList) := by
  have found : (documents s).find? (·.1 = slideName) = some (slideName, s.toXml) := rfl
  rw [data?_parts, found, Option.map_some, Option.some_or, ofDocument, Slide.text]

theorem data?_image (s : Slide) : data? imageName (parts s) = some s.picture.data := by
  have absent : (documents s).find? (·.1 = imageName) = none := rfl
  rw [data?_parts, absent, Option.map_none, Option.none_or]
  rfl

theorem fixed_parts (s t : Slide) : fixed (parts s) = fixed (parts t) := by
  have same : (documents s).filter (·.1 ∉ [slideName, imageName]) =
    (documents t).filter (·.1 ∉ [slideName, imageName]) := rfl
  have alike : ((documents s).map ofDocument).filter (·.name ∉ [slideName, imageName]) =
      ((documents t).map ofDocument).filter (·.name ∉ [slideName, imageName]) := by
    rw [List.filter_map, List.filter_map]
    exact congrArg (List.map ofDocument) same
  rw [fixed, fixed, parts_eq, parts_eq, List.filter_append, List.filter_append, alike]
  rfl

theorem length_fixed (s : Slide) : (fixed (parts s)).length = 12 := by
  have names : (fixed (parts s)).map (·.name) =
      partNames.filter (· ∉ [slideName, imageName]) := by
    rw [← names_parts s, List.filter_map]
    rfl
  have length := congrArg List.length names
  rw [List.length_map] at length
  exact length

theorem read?_of_data {parts : List Part} {s : Slide} {slide : List UInt8}
    (first : data? slideName parts = some slide)
    (shown : Slide.read? slide = some (s.title, (s.picture.left, s.picture.top),
      (s.picture.width, s.picture.height)))
    (second : data? imageName parts = some s.picture.data) : read? parts = some s := by
  rw [read?, first, second]
  simp only [Option.bind_eq_bind, Option.bind_some, shown]
  rfl

theorem read?_parts (s : Slide) : read? (parts s) = some s :=
  read?_of_data (data?_slide s) s.read?_text (data?_image s)

/-- The parts have their names, and the slide is in the two that are its own. -/
structure Holds (parts : List Part) (s : Slide) : Prop where
  names : parts.map (·.name) = partNames
  image : data? imageName parts = some s.picture.data
  slide : (data? slideName parts).bind Slide.read? =
    some (s.title, (s.picture.left, s.picture.top), (s.picture.width, s.picture.height))

theorem holds_parts (s : Slide) : Holds (parts s) s where
  names := names_parts s
  image := data?_image s
  slide := by rw [data?_slide, Option.bind_some, s.read?_text]

/-- A deck has its fourteen parts in one order. The image is as it is given, the slide says the
title and where the picture is, and the other parts are the same for every slide. So slides with
the same parts are the same. -/
theorem parts_faithful :
    (partNames.length = 14 ∧ partNames.Nodup) ∧ (∀ s, Holds (parts s) s) ∧
      (∀ s t, fixed (parts s) = fixed (parts t) ∧ (fixed (parts s)).length = 12) ∧
      ∀ s t, parts s = parts t ↔ s = t := by
  refine ⟨⟨rfl, by decide⟩, holds_parts, fun s t => ⟨fixed_parts s t, length_fixed s⟩,
    fun s t => ⟨fun same => ?_, congrArg parts⟩⟩
  have read := read?_parts s
  rw [same, read?_parts t] at read
  exact (Option.some.inj read).symm

end Deck

end EntityDiagram
