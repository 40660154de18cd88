import EntityDiagram.Deck.Xml
import EntityDiagram.Proofs.Deck.Grammar
import EntityDiagram.Proofs.Text.Escape

/-! # Trees and the documents that they render to

A tree whose names can be written renders to an element with the outline of the tree, whatever its
texts and attribute values are, since those are escaped. Escapes do not make a character one that a
document may have, though, so the document is well-formed only if its texts and values have such
characters only.
-/

namespace EntityDiagram.Xml

open Text (escapeMarkup escapeMarkupChar escapeMarkupChar_of_plain)

/-! ## What a tree has -/

mutual

/-- All names can be written, and no element has two attributes of one name. -/
def valid : Xml → Bool
  | text _ => true
  | element name attributes children =>
    isName name.toList && attributes.all (isName ·.1.toList) &&
      decide (attributes.map (·.1.toList)).Nodup && validAll children

def validAll : List Xml → Bool
  | [] => true
  | x :: rest => valid x && validAll rest

end

mutual

def outline : Xml → Outline
  | text _ => []
  | element name _ children => (name.toList, renderAll children) :: outlineAll children

def outlineAll : List Xml → Outline
  | [] => []
  | x :: rest => outline x ++ outlineAll rest

end

mutual

/-- The texts and the values of attributes, which are what is escaped. -/
def strings : Xml → List String
  | text content => [content]
  | element _ attributes children => attributes.map (·.2) ++ stringsAll children

def stringsAll : List Xml → List String
  | [] => []
  | x :: rest => strings x ++ stringsAll rest

end

theorem valid_element {name : String} {attributes : List (String × String)}
    {children : List Xml} :
    (element name attributes children).valid = true ↔
      isName name.toList = true ∧ (∀ a ∈ attributes, isName a.1.toList = true) ∧
        (attributes.map (·.1.toList)).Nodup ∧ validAll children = true := by
  simp only [valid, Bool.and_eq_true, List.all_eq_true, decide_eq_true_eq, and_assoc]

/-! ## Escapes -/

theorem escapeMarkupChar_cases (c : Char) :
    IsReference (escapeMarkupChar c) ∨
      (c ∉ ['&', '<', '>', '"'] ∧ escapeMarkupChar c = [c]) := by
  by_cases special : c ∈ ['&', '<', '>', '"']
  · refine .inl ?_
    simp only [List.mem_cons, List.not_mem_nil, or_false] at special
    rcases special with rfl | rfl | rfl | rfl
    · exact ⟨"amp", by decide, rfl⟩
    · exact ⟨"lt", by decide, rfl⟩
    · exact ⟨"gt", by decide, rfl⟩
    · exact ⟨"quot", by decide, rfl⟩
  · exact .inr ⟨special, escapeMarkupChar_of_plain special⟩

theorem isValue_escapeMarkup (s : String) : IsValue (escapeMarkup s) := by
  rw [escapeMarkup]
  induction s.toList with
  | nil => exact .nil
  | cons c cs ih =>
    rw [List.flatMap_cons]
    rcases escapeMarkupChar_cases c with reference | ⟨plain, single⟩
    · exact .reference reference ih
    · rw [single]
      have among : ['<', '&', '"'] ⊆ ['&', '<', '>', '"'] := by simp
      exact .character (fun special => plain (among special)) ih

/-- None of the characters that stand for markup, however they are put together. -/
def Plain (run : List Char) : Prop := ∀ c ∈ run, c ∉ ['&', '<', '>']

theorem plain_nil : Plain [] := fun _ none => nomatch none

theorem Plain.isData {run : List Char} (plain : Plain run) : IsData run := by
  constructor
  · have among : ['<', '&'] ⊆ ['&', '<', '>'] := by simp
    exact fun c inside special => plain c inside (among special)
  · intro sectionEnd
    exact plain '>' (sectionEnd.subset (by decide)) (by decide)

/-! ## Elements -/

theorem isAttributes_flatMap {attributes : List (String × String)}
    (named : ∀ a ∈ attributes, isName a.1.toList = true)
    (distinct : (attributes.map (·.1.toList)).Nodup) :
    IsAttributes (attributes.map (·.1.toList)) (attributes.flatMap attributeText) := by
  induction attributes with
  | nil => exact .nil
  | cons a rest ih =>
    rw [List.map_cons, List.nodup_cons] at distinct
    rw [List.forall_mem_cons] at named
    have written : (a :: rest).flatMap attributeText =
        ' ' :: (a.1.toList ++ '=' :: '"' :: (escapeMarkup a.2 ++
          '"' :: rest.flatMap attributeText)) := by
      simp [attributeText]
    rw [written]
    exact .cons named.1 (isValue_escapeMarkup a.2) distinct.1 (ih named.2 distinct.2)

/-- Content that may come behind a run of characters. -/
def Joins (cs : List Char) (outline : Outline) : Prop :=
  ∀ run, Plain run → Marked .content (run ++ cs) outline

theorem Joins.marked {cs : List Char} {outline : Outline} (joins : Joins cs outline) :
    Marked .content cs outline :=
  joins [] plain_nil

theorem joins_nil : Joins [] [] := by
  intro run plain
  rw [List.append_nil]
  exact .data plain.isData

/-- The characters of a text join the run before it, up to its first reference. -/
theorem Joins.escapeMarkup {rest : List Char} {others : Outline} (behind : Joins rest others)
    (s : String) : Joins (Text.escapeMarkup s ++ rest) others := by
  rw [Text.escapeMarkup]
  induction s.toList with
  | nil => exact behind
  | cons c cs ih =>
    intro run plain
    rw [List.flatMap_cons, List.append_assoc]
    rcases escapeMarkupChar_cases c with reference | ⟨other, single⟩
    · exact .reference plain.isData reference ih.marked
    · rw [single, ← List.append_assoc]
      have among : ['&', '<', '>'] ⊆ ['&', '<', '>', '"'] := by simp
      refine ih (run ++ [c]) (List.forall_mem_append.mpr ⟨plain, ?_⟩)
      exact List.forall_mem_singleton.mpr fun special => other (among special)

theorem render_element (name : String) (attributes : List (String × String)) (child : Xml)
    (children : List Xml) :
    (element name attributes (child :: children)).render =
      '<' :: (name.toList ++ (attributes.flatMap attributeText ++
        '>' :: (renderAll (child :: children) ++ '<' :: '/' :: (name.toList ++ ['>'])))) := by
  simp [render, renderAll, tagText]

theorem render_leaf (name : String) (attributes : List (String × String)) :
    (element name attributes []).render =
      '<' :: (name.toList ++ (attributes.flatMap attributeText ++ ['/', '>'])) := by
  simp [render, tagText]

theorem renderAll_singleton (x : Xml) : renderAll [x] = x.render := List.append_nil _

/-- An element is marked up if what is between its tags is. -/
theorem marked_element {name : String} {attributes : List (String × String)}
    {children : List Xml} (tidy : (element name attributes children).valid = true)
    (inside : Marked .content (renderAll children) (outlineAll children)) :
    Marked .element (element name attributes children).render
      (element name attributes children).outline := by
  obtain ⟨named, attributed, distinct, -⟩ := valid_element.mp tidy
  have tag := isAttributes_flatMap attributed distinct
  cases children with
  | nil =>
    rw [render_leaf]
    exact .single named tag
  | cons child children =>
    rw [render_element]
    exact .paired named tag inside

mutual

theorem joins_render (x : Xml) (tidy : x.valid = true) {rest : List Char} {others : Outline}
    (behind : Joins rest others) : Joins (x.render ++ rest) (x.outline ++ others) := by
  cases x with
  | text content => exact behind.escapeMarkup content
  | element name attributes children =>
    intro run plain
    have inside := joins_renderAll children (valid_element.mp tidy).2.2.2
    exact .child plain.isData (marked_element tidy inside.marked) behind.marked

theorem joins_renderAll (children : List Xml) (tidy : validAll children = true) :
    Joins (renderAll children) (outlineAll children) := by
  cases children with
  | nil => exact joins_nil
  | cons x rest =>
    obtain ⟨first, others⟩ := (Bool.and_eq_true _ _).mp tidy
    exact joins_render x first (joins_renderAll rest others)

end

def isElement : Xml → Bool
  | text _ => false
  | element _ _ _ => true

theorem marked_of_valid {x : Xml} (rooted : x.isElement = true) (tidy : x.valid = true) :
    Marked .element x.render x.outline := by
  cases x with
  | text content => cases rooted
  | element name attributes children =>
    have inside := joins_renderAll children (valid_element.mp tidy).2.2.2
    exact marked_element tidy inside.marked

theorem document_of_valid {x : Xml} (rooted : x.isElement = true) (tidy : x.valid = true) :
    Document x.document.toList x.outline := by
  have line : declaration =
      "<?xml version=\"1.0\" encoding=\"UTF-8\" standalone=\"yes\"?>" ++ "\n" := by decide
  have space : "\n".toList.all isSpace = true := by decide
  refine ⟨"\n".toList, _, ?_, List.all_eq_true.mp space, marked_of_valid rooted tidy⟩
  rw [document, String.toList_ofList, line, String.toList_append, List.append_assoc]

/-! ## Characters -/

/-- All characters may stand in a document. -/
def Legible (cs : List Char) : Prop := ∀ c ∈ cs, isCharacter c = true

instance (cs : List Char) : Decidable (Legible cs) :=
  decidable_of_iff (cs.all isCharacter = true) List.all_eq_true

theorem legible_nil : Legible [] := fun _ none => nomatch none

theorem legible_append {cs ds : List Char} : Legible (cs ++ ds) ↔ Legible cs ∧ Legible ds :=
  List.forall_mem_append

theorem legible_cons {c : Char} {cs : List Char} :
    Legible (c :: cs) ↔ isCharacter c = true ∧ Legible cs :=
  List.forall_mem_cons

theorem legible_of_isName {cs : List Char} (named : isName cs = true) : Legible cs :=
  fun c inside => isCharacter_of_isNameCharacter (isName_chars named c inside)

theorem legible_escapeMarkup {s : String} : Legible (escapeMarkup s) ↔ Legible s.toList := by
  rw [escapeMarkup]
  induction s.toList with
  | nil => exact Iff.rfl
  | cons c cs ih =>
    rw [List.flatMap_cons, legible_append, legible_cons, ih]
    refine and_congr_left fun _ => ?_
    by_cases special : c ∈ ['&', '<', '>', '"']
    · simp only [List.mem_cons, List.not_mem_nil, or_false] at special
      rcases special with rfl | rfl | rfl | rfl <;> decide
    · rw [escapeMarkupChar_of_plain special]
      exact List.forall_mem_singleton

theorem legible_attributes {attributes : List (String × String)}
    (named : ∀ a ∈ attributes, isName a.1.toList = true) :
    Legible (attributes.flatMap attributeText) ↔ ∀ s ∈ attributes.map (·.2), Legible s.toList := by
  induction attributes with
  | nil => exact iff_of_true legible_nil fun _ none => nomatch none
  | cons a rest ih =>
    rw [List.forall_mem_cons] at named
    have name := legible_of_isName named.1
    have fixed : isCharacter ' ' = true ∧ isCharacter '=' = true ∧ isCharacter '"' = true := by
      decide
    simp only [List.flatMap_cons, legible_append, ih named.2, List.map_cons, List.forall_mem_cons,
      attributeText, List.cons_append, legible_cons, legible_escapeMarkup, fixed, name,
      legible_nil, true_and, and_true]

mutual

/-- A document has no other characters than its names and strings have. -/
theorem legible_render (x : Xml) (tidy : x.valid = true) :
    Legible x.render ↔ ∀ s ∈ x.strings, Legible s.toList := by
  cases x with
  | text content =>
    simp only [render, strings, legible_escapeMarkup, List.mem_singleton, forall_eq]
  | element name attributes children =>
    obtain ⟨named, attributed, -, inside⟩ := valid_element.mp tidy
    have title := legible_of_isName named
    have fixed : isCharacter '<' = true ∧ isCharacter '>' = true ∧ isCharacter '/' = true := by
      decide
    rw [strings, List.forall_mem_append, ← legible_attributes attributed,
      ← legible_renderAll children inside]
    cases children with
    | nil =>
      simp only [render_leaf, renderAll, legible_cons, legible_append, fixed, title, legible_nil,
        true_and, and_true]
    | cons child children =>
      simp only [render_element, legible_cons, legible_append, fixed, title, legible_nil,
        true_and, and_true]

theorem legible_renderAll (children : List Xml) (tidy : validAll children = true) :
    Legible (renderAll children) ↔ ∀ s ∈ stringsAll children, Legible s.toList := by
  cases children with
  | nil => exact iff_of_true legible_nil fun _ none => nomatch none
  | cons x rest =>
    obtain ⟨first, others⟩ := (Bool.and_eq_true _ _).mp tidy
    rw [renderAll, legible_append, legible_render x first, legible_renderAll rest others,
      stringsAll, List.forall_mem_append]

end

/-- A document is well-formed if and only if its texts and values have no other characters than a
document may have. -/
theorem wellFormed_document_iff {x : Xml} (rooted : x.isElement = true) (tidy : x.valid = true) :
    WellFormed x.document.toList ↔ ∀ s ∈ x.strings, Legible s.toList := by
  have line : Legible declaration.toList := by decide
  have written : x.document.toList = declaration.toList ++ x.render := by
    rw [document, String.toList_ofList]
  have characters : Legible x.document.toList ↔ ∀ s ∈ x.strings, Legible s.toList := by
    rw [written, legible_append, legible_render x tidy]
    exact and_iff_right line
  rw [← characters]
  exact ⟨fun formed => formed.characters, fun legible => ⟨legible, _, document_of_valid rooted tidy⟩⟩

end EntityDiagram.Xml
