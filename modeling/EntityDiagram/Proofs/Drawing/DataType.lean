import EntityDiagram.Drawing.DataType
import EntityDiagram.Proofs.Text.Lowercase

/-! # Types by keyword

The type of a field is that of the first rule whose keyword the name mentions, in letters of any
case. The keywords are such that the full lower case of a name adds nothing to this: only the
letters of ASCII have a part in it.
-/

namespace EntityDiagram

namespace DataType

open Text (Mentions Distinct lowercase occurs)

/-- The first rule that applies, where `mentioned` tells for which keywords one does. -/
def decided (mentioned : String → Prop) [DecidablePred mentioned] : DataType :=
  if mentioned "id" then integer
  else if mentioned "name" then string
  else if mentioned "price" then float
  else if mentioned "bool" ∨ mentioned "eligible" then bool
  else string

/-- What makes a word a keyword that can be looked for in lower case. -/
structure Keyword (word : List Char) : Prop where
  distinct : Distinct word
  filled : word ≠ []
  small : word.map Char.toLower = word

theorem keyword_of_mem : ∀ word ∈ keywords.map Prod.fst, Keyword word.toList := by
  intro word member
  have ascii : ∀ word ∈ keywords.map Prod.fst, word.toList.all (·.toNat < 0x80) = true := by
    decide
  have no_k : ∀ word ∈ keywords.map Prod.fst, 'k' ∉ word.toList := by decide
  have last : ∀ word ∈ keywords.map Prod.fst, word.toList.getLast? ≠ some 'i' := by decide
  have filled : ∀ word ∈ keywords.map Prod.fst, word.toList ≠ [] := by decide
  have small : ∀ word ∈ keywords.map Prod.fst, word.toList.map Char.toLower = word.toList := by
    decide
  have low := fun c letter => of_decide_eq_true (List.all_eq_true.mp (ascii word member) c letter)
  exact ⟨⟨low, no_k word member, last word member⟩, filled word member, small word member⟩

theorem decided_congr {p q : String → Prop} [DecidablePred p] [DecidablePred q]
    (same : ∀ word ∈ keywords.map Prod.fst, p word ↔ q word) : decided p = decided q := by
  have id := same "id" (by decide)
  have name := same "name" (by decide)
  have price := same "price" (by decide)
  have bool := same "bool" (by decide)
  have eligible := same "eligible" (by decide)
  simp only [decided, id, name, price, bool, eligible]

/-- The list of keywords is gone through from its start, as the rules are. -/
theorem find?_keywords (found : String → Bool) :
    (match keywords.find? fun (keyword, _) => found keyword with
      | some (_, type) => type
      | none => string) = decided fun word => found word = true := by
  cases id : found "id"
  · cases name : found "name"
    · cases price : found "price"
      · cases bool : found "bool"
        · cases eligible : found "eligible" <;>
            simp [keywords, decided, id, name, price, bool, eligible]
        · simp [keywords, decided, id, name, price, bool]
      · simp [keywords, decided, id, name, price]
    · simp [keywords, decided, id, name]
  · simp [keywords, decided, id]

theorem infer_eq_found (field : String) :
    infer field = decided fun word => occurs word.toList (lowercase field.toList) = true :=
  find?_keywords fun word => occurs word.toList (lowercase field.toList)

theorem occurs_keyword_iff {word : String} (member : word ∈ keywords.map Prod.fst)
    (cs : List Char) :
    occurs word.toList (lowercase cs) = true ↔ Mentions word.toList cs :=
  have keyword := keyword_of_mem word member
  Text.occurs_lowercase_iff keyword.distinct keyword.filled keyword.small

theorem infer_eq_decided (field : String) :
    infer field = decided fun word => Mentions word.toList field.toList :=
  (infer_eq_found field).trans (decided_congr fun _ member => occurs_keyword_iff member _)

/-- A keyword is found in the lower case of a name exactly if the name mentions it in letters of any
case, and the first rule whose keyword is mentioned gives the type. So names that differ in the case
of ASCII letters only have one type. A character outside of ASCII plays no part: what is mentioned
around it is mentioned on one side of it. -/
theorem infer_first_rule :
    (∀ word ∈ keywords.map Prod.fst, ∀ cs,
      occurs word.toList (lowercase cs) = true ↔ Mentions word.toList cs) ∧
    (∀ field, infer field = decided fun word => Mentions word.toList field.toList) ∧
    (∀ field other : String, field.toList.map Char.toLower = other.toList.map Char.toLower →
      infer field = infer other) ∧
    ∀ before (c : Char) after, 0x80 ≤ c.toNat →
      (∀ word ∈ keywords.map Prod.fst, Mentions word.toList (before ++ c :: after) ↔
        Mentions word.toList before ∨ Mentions word.toList after) ∧
      infer (String.ofList (before ++ c :: after)) = decided fun word =>
        Mentions word.toList before ∨ Mentions word.toList after := by
  refine ⟨fun _ member => occurs_keyword_iff member, infer_eq_decided, fun field other same => ?_,
    fun before c after high => ?_⟩
  · rw [infer_eq_decided, infer_eq_decided]
    refine decided_congr fun word _ => ?_
    rw [Text.mentions_iff, Text.mentions_iff, same]
  · have divided : ∀ word ∈ keywords.map Prod.fst, Mentions word.toList (before ++ c :: after) ↔
        Mentions word.toList before ∨ Mentions word.toList after := fun word member =>
      Text.mentions_append_cons_iff (keyword_of_mem word member).distinct
        (keyword_of_mem word member).small high before after
    refine ⟨divided, ?_⟩
    rw [infer_eq_decided, String.toList_ofList]
    exact decided_congr divided

/-- The dotted capital I is not the `i` of a keyword though its lower case begins with one, and it
does not take the keyword behind it away. -/
theorem infer_first_rule_dotted :
    infer "PRİCE" = .string ∧ infer "İPrice" = .float ∧ infer "PrIcE" = infer "price" ∧
      (Mentions "id".toList "x_Id".toList ∧ occurs "id".toList (lowercase "x_Id".toList) = true) := by
  obtain ⟨found, -, same, divided⟩ := infer_first_rule
  have mentioned : Mentions "id".toList "x_Id".toList := by decide
  refine ⟨?_, ?_, same "PrIcE" "price" (by decide), mentioned,
    (found "id" (by decide) "x_Id".toList).mpr mentioned⟩
  · exact (divided "PR".toList 'İ' "CE".toList (by decide)).2.trans (by decide)
  · exact (divided [] 'İ' "Price".toList (by decide)).2.trans (by decide)

end DataType

end EntityDiagram
