import EntityDiagram.Config.Discovery
import EntityDiagram.Deck.Slide
import EntityDiagram.Proofs.Deck.Rendering
import EntityDiagram.Proofs.Files.Store

/-! # Slides as documents

Whatever its title and wherever its picture is, a slide is a document with one outline, in which
the one `a:t` element holds the escaped title. What is left to its title is whether the characters
of the document are such as a document may have. The configuration takes any title, also one with a
control character, and an XML reader does not take the slide then.
-/

namespace EntityDiagram

open Text Xml

/-! ## Numbers -/

theorem isCharacter_of_isDigit {c : Char} (digit : c.isDigit = true) : isCharacter c = true := by
  rw [Char.isDigit, Bool.and_eq_true, decide_eq_true_eq, decide_eq_true_eq] at digit
  have first : 48 ≤ c.toNat := digit.1
  have last : c.toNat ≤ 57 := digit.2
  simp only [isCharacter, characterRanges, inRanges, Bool.or_eq_true, Bool.and_eq_true,
    decide_eq_true_eq, Bool.false_eq_true, or_false]
  omega

theorem digit_or_minus {n : Int} {c : Char} (inside : c ∈ (toString n).toList) :
    c.isDigit = true ∨ c = '-' := by
  have digits : ∀ m : Nat, c ∈ Nat.toDigits 10 m → c.isDigit = true := fun m =>
    Nat.isDigit_of_mem_toDigits (by decide) (by decide)
  cases n with
  | ofNat m =>
    change c ∈ (toString m).toList at inside
    rw [Nat.toString_eq_ofList_toDigits, String.toList_ofList] at inside
    exact .inl (digits m inside)
  | negSucc m =>
    change c ∈ ("-" ++ toString (m + 1)).toList at inside
    simp only [Nat.toString_eq_ofList_toDigits, String.toList_append, String.toList_ofList,
      List.mem_append] at inside
    exact inside.elim (fun sign => .inr (List.mem_singleton.mp sign))
      fun digit => .inl (digits (m + 1) digit)

theorem legible_toString (n : Int) : Legible (toString n).toList := by
  intro c inside
  rcases digit_or_minus inside with digit | rfl
  · exact isCharacter_of_isDigit digit
  · decide

namespace Slide

/-- A slide without anything, which has the names that every slide has. -/
def blank : Slide where
  title := ""
  picture := { data := [], left := 0, top := 0, width := 0, height := 0 }

theorem valid_toXml (s : Slide) : s.toXml.valid = true := by
  have same : s.toXml.valid = blank.toXml.valid := by
    simp only [toXml, titleRun, pictureShape, Deck.rectangle, Deck.titleShape, Deck.shapeTree,
      node, leaf, valid, validAll, List.map_cons, List.map_nil, List.all_cons, List.all_nil]
  exact same.trans (by decide +kernel)

theorem outline_title (s : Slide) :
    s.toXml.outline.filter (·.1 = "a:t".toList) = [("a:t".toList, escapeMarkup s.title)] := by
  have held : renderAll [.text s.title] = escapeMarkup s.title := renderAll_singleton _
  rw [← held]
  rfl

theorem strings_toXml (s : Slide) :
    s.toXml.strings =
      (Deck.namespaces.map (·.2) ++ ["1", "", "2", "Title 1", "1", "title", "en-US"]) ++
        s.title :: (["3", "Picture 2", "1", "rId2"] ++
          ([s.picture.left, s.picture.top, s.picture.width, s.picture.height].map toString ++
            ["rect"])) :=
  rfl

/-- Only the title can be of other characters than a document may have. -/
theorem legible_strings_iff (s : Slide) :
    (∀ string ∈ s.toXml.strings, Legible string.toList) ↔ Legible s.title.toList := by
  have before : ∀ string ∈ Deck.namespaces.map (·.2) ++
      ["1", "", "2", "Title 1", "1", "title", "en-US"], Legible string.toList := by decide +kernel
  have between : ∀ string ∈ ["3", "Picture 2", "1", "rId2"], Legible string.toList := by decide
  have behind : ∀ string ∈ ["rect"], Legible string.toList := by decide
  have numbers : ∀ string ∈ [s.picture.left, s.picture.top, s.picture.width,
      s.picture.height].map toString, Legible string.toList := by
    rw [List.forall_mem_map]
    exact fun n _ => legible_toString n
  rw [strings_toXml]
  constructor
  · intro legible
    exact legible s.title (List.mem_append_right _ (List.mem_cons_self ..))
  · intro title string inside
    rcases List.mem_append.mp inside with inside | inside
    · exact before string inside
    · rcases List.mem_cons.mp inside with rfl | inside
      · exact title
      · rcases List.mem_append.mp inside with inside | inside
        · exact between string inside
        · rcases List.mem_append.mp inside with inside | inside
          · exact numbers string inside
          · exact behind string inside

theorem document_text (s : Slide) : Document s.text.toList s.toXml.outline :=
  document_of_valid rfl s.valid_toXml

theorem wellFormed_text_iff (s : Slide) :
    WellFormed s.text.toList ↔ Legible s.title.toList :=
  (wellFormed_document_iff rfl s.valid_toXml).trans s.legible_strings_iff

/-- The elements of a slide are nested in one way, with one `a:t` element among them, which holds
the escaped title. The slide is well-formed if and only if no character of its title is one that a
document may not have. -/
theorem wellFormed_iff_title (s : Slide) :
    ∃ outline, Document s.text.toList outline ∧
      (∀ other, Document s.text.toList other → other = outline) ∧
      outline.filter (·.1 = "a:t".toList) = [("a:t".toList, escapeMarkup s.title)] ∧
      (WellFormed s.text.toList ↔ ∀ c ∈ s.title.toList, isCharacter c = true) :=
  ⟨s.toXml.outline, s.document_text, fun _ other => other.unique s.document_text, s.outline_title,
    s.wellFormed_text_iff⟩

/-- A configuration file that gives nothing but the title, with its escapes. -/
def onlyTitle (escaped : String) : Files where
  nodes := [(["c.toml"], .file (.bytes (Text.encode
    ("[slide]\ntitle = \"" ++ escaped ++ "\"\n").toList)))]

/-- A configuration may have a control character in its title, and the slide has it then. -/
theorem control_title_malformed :
    (Config.load (onlyTitle "a\\u0001b").view none (some ⟨"c.toml"⟩)).value =
      .ok { title := "a\x01b" } ∧
    ¬ WellFormed (text { blank with title := "a\x01b" }).toList := by
  refine ⟨Files.eq_ok_of_toOption (by decide +kernel), fun formed => ?_⟩
  have legible := (wellFormed_text_iff _).mp formed
  exact absurd (legible '\x01' (by decide)) (by decide)

end Slide

end EntityDiagram
