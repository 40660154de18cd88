import EntityDiagram.Proofs.Deck.Brackets
import EntityDiagram.Proofs.Text.Cut

/-! # Finding elements in a text

The first tag with a name stands in a document where its tree has the first element with that name.
No name that goes on otherwise, no closing tag and no text is taken for the tag, whatever the texts
and the values of attributes are.
-/

namespace EntityDiagram

namespace Text

/-! ## The first occurrence of a mark -/

/-- What stands before and behind the first occurrence of `mark`. -/
def cutAt? (mark : List Char) : List Char → Option (List Char × List Char)
  | [] => (dropStart? mark []).map fun after => ([], after)
  | c :: rest =>
    match dropStart? mark (c :: rest) with
    | some after => some ([], after)
    | none => (cutAt? mark rest).map fun (before, after) => (c :: before, after)

/-- No occurrence of `mark` begins in the text, whatever follows. -/
def Skips (mark cs : List Char) : Prop :=
  ∀ rest, cutAt? mark (cs ++ rest) =
    (cutAt? mark rest).map fun (before, after) => (cs ++ before, after)

variable {mark cs : List Char}

theorem cutAt?_start (mark rest : List Char) : cutAt? mark (mark ++ rest) = some ([], rest) := by
  have start := dropStart?_append mark rest
  cases whole : mark ++ rest with
  | nil => rw [cutAt?, ← whole, start, Option.map_some]
  | cons c more => rw [cutAt?, ← whole, start]

theorem skips_nil : Skips mark [] := by
  intro rest
  cases h : cutAt? mark rest <;> simp [h]

theorem skips_cons {c : Char} (here : ∀ rest, dropStart? mark (c :: (cs ++ rest)) = none)
    (behind : Skips mark cs) : Skips mark (c :: cs) := by
  intro rest
  rw [List.cons_append, cutAt?, here, behind, Option.map_map]
  rfl

theorem Skips.append {ds : List Char} (first : Skips mark cs) (second : Skips mark ds) :
    Skips mark (cs ++ ds) := by
  intro rest
  rw [List.append_assoc, first, second, Option.map_map]
  simp only [Function.comp_def, List.append_assoc]

theorem skips_of_not_mem {c : Char} (mark : List Char) (absent : c ∉ cs) :
    Skips (c :: mark) cs := by
  induction cs with
  | nil => exact skips_nil
  | cons d rest ih =>
    rw [List.mem_cons, not_or] at absent
    exact skips_cons (fun _ => if_neg absent.1) (ih absent.2)

theorem Skips.cutAt? (skips : Skips mark cs) (rest : List Char) :
    cutAt? mark (cs ++ (mark ++ rest)) = some (cs, rest) := by
  rw [skips, cutAt?_start, Option.map_some]
  simp only [List.append_nil]

end Text

namespace Xml

open Text (Stops stops_cons run_unique Skips skips_nil skips_cons skips_of_not_mem dropStart?)

/-! ## The first element with a name -/

mutual

/-- The first element with that name, in the order of the first tags. -/
def first? (name : String) : Xml → Option Xml
  | text _ => none
  | element other attributes children =>
    if other = name then some (element other attributes children) else firstOf? name children

def firstOf? (name : String) : List Xml → Option Xml
  | [] => none
  | x :: rest => (first? name x).or (firstOf? name rest)

end

/-- The mark is found in the text where that element begins, or not at all. -/
def Finds (mark cs : List Char) : Option Xml → Prop
  | none => Skips mark cs
  | some x => ∃ before after, cs = before ++ (x.render ++ after) ∧ Skips mark before

theorem Finds.append {mark cs ds : List Char} {found other : Option Xml}
    (first : Finds mark cs found) (second : Finds mark ds other) :
    Finds mark (cs ++ ds) (found.or other) := by
  cases found with
  | some x =>
    obtain ⟨before, after, rfl, skips⟩ := first
    exact ⟨before, after ++ ds, by simp, skips⟩
  | none =>
    cases other with
    | none => exact Skips.append first second
    | some x =>
      obtain ⟨before, after, rfl, skips⟩ := second
      exact ⟨cs ++ before, after, by simp, Skips.append first skips⟩

theorem EndsTag.append {cs : List Char} (ends : EndsTag cs) (rest : List Char) :
    EndsTag (cs ++ rest) := by
  obtain ⟨c, more, rfl, last⟩ := ends
  exact ⟨c, more ++ rest, rfl, last⟩

variable {name : String} {c : Char}

/-- How a tag begins that has the name and then `c`. -/
def tagMark (name : String) (c : Char) : List Char := '<' :: (name.toList ++ [c])

/-- A tag with another name does not begin like that, nor is there another tag in it. -/
theorem skips_other {other : String} {attributes : List (String × String)} {tail : List Char}
    (named : isName name.toList = true) (ends : isNameCharacter c = false)
    (tidy : isName other.toList = true) (attributed : ∀ a ∈ attributes, isName a.1.toList = true)
    (differ : other ≠ name) (tail_ends : EndsTag tail) (flat : '<' ∉ tail) :
    Skips (tagMark name c) ('<' :: (tagText other attributes ++ tail)) := by
  apply skips_cons
  · intro rest
    rw [Option.eq_none_iff_forall_ne_some]
    intro after start
    have same := Text.dropStart?_eq_some_iff.mp start
    simp only [tagMark, tagText, List.cons_append, List.append_assoc, List.cons.injEq,
      true_and] at same
    have stops : Stops isNameCharacter (attributes.flatMap attributeText ++ (tail ++ rest)) := by
      cases attributes with
      | nil => exact (tail_ends.append rest).stops
      | cons => exact stops_cons (by decide)
    have names := (run_unique same (isName_chars tidy) stops (isName_chars named)
      (stops_cons (by rw [ends]))).1
    exact differ (String.toList_inj.mp names)
  · apply skips_of_not_mem
    intro inside
    rcases List.mem_append.mp inside with inside | inside
    · exact (flat_tagText tidy attributed).less inside
    · exact flat inside

/-- Neither does a closing tag, nor anything else that begins with no name. -/
theorem skips_unnamed {d : Char} {cs : List Char} (named : isName name.toList = true)
    (unnamed : startsName d = false) (flat : '<' ∉ d :: cs) :
    Skips (tagMark name c) ('<' :: d :: cs) := by
  apply skips_cons _ (skips_of_not_mem _ flat)
  intro rest
  rw [Option.eq_none_iff_forall_ne_some]
  intro after start
  have same := Text.dropStart?_eq_some_iff.mp start
  cases letters : name.toList with
  | nil => rw [letters] at named; cases named
  | cons first more =>
    rw [letters, isName, Bool.and_eq_true] at named
    simp only [letters, List.cons_append, List.cons.injEq, true_and] at same
    rw [same.1, named.1] at unnamed
    cases unnamed

mutual

/-- The first element with a name is where the first tag with that name begins. -/
theorem finds_render (named : isName name.toList = true) (ends : isNameCharacter c = false)
    (x : Xml) (tidy : x.valid = true) : Finds (tagMark name c) x.render (x.first? name) := by
  cases x with
  | text content => exact skips_of_not_mem _ (Text.not_mem_escapeMarkup content)
  | element other attributes children =>
    obtain ⟨other_named, attributed, -, inside⟩ := valid_element.mp tidy
    rw [first?]
    split
    · exact ⟨[], [], by simp, skips_nil⟩
    · next differ =>
      cases children with
      | nil =>
        have single : (element other attributes []).render =
            '<' :: (tagText other attributes ++ ['/', '>']) := rfl
        rw [single]
        exact skips_other named ends other_named attributed differ endsTag_single (by decide)
      | cons child children =>
        have opening : Finds (tagMark name c) (openTag other attributes) none :=
          skips_other named ends other_named attributed differ endsTag_paired (by decide)
        have content := finds_renderAll named ends (child :: children) inside
        have closed : '<' ∉ '/' :: (other.toList ++ ['>']) := by
          simpa using (flat_of_isName other_named).less
        have closing : Finds (tagMark name c) (closeTag other) none :=
          skips_unnamed named (by decide) closed
        have whole := opening.append (content.append closing)
        rw [render_paired _ _ (List.cons_ne_nil child children)]
        rwa [Option.none_or, Option.or_none] at whole

theorem finds_renderAll (named : isName name.toList = true) (ends : isNameCharacter c = false)
    (children : List Xml) (tidy : validAll children = true) :
    Finds (tagMark name c) (renderAll children) (firstOf? name children) := by
  cases children with
  | nil => exact skips_nil
  | cons x rest =>
    obtain ⟨first, others⟩ := (Bool.and_eq_true _ _).mp tidy
    exact (finds_render named ends x first).append (finds_renderAll named ends rest others)

end

theorem finds_document (named : isName name.toList = true) (ends : isNameCharacter c = false)
    (x : Xml) (tidy : x.valid = true) :
    Finds (tagMark name c) x.document.toList (x.first? name) := by
  have line : declaration.toList = '<' :: '?' :: declaration.toList.drop 2 := by decide
  have flat : '<' ∉ '?' :: declaration.toList.drop 2 := by decide
  have skips : Finds (tagMark name c) declaration.toList none := by
    rw [line]
    exact skips_unnamed named (by decide) flat
  rw [document, String.toList_ofList]
  exact skips.append (finds_render named ends x tidy)

end Xml

end EntityDiagram
