import EntityDiagram.Proofs.Source.Reading

/-! # Items of an attribute list

A list is read item by item, so it may be cut at any comma and its parts read on their own. An item
of stars and white space has no name and stands for nothing, wherever it is in the list. Every
other item stands for one attribute. Its stars go before it is trimmed, so blanks that a star hid
from the end go as well, and more stars say no more than one.
-/

namespace EntityDiagram.Line

open Text

/-- Without its stars and white space nothing is left of the item. -/
def Nameless (item : List Char) : Prop := ∀ c ∈ item, c = '*' ∨ isWhiteSpace c = true

instance (item : List Char) : Decidable (Nameless item) :=
  decidable_of_iff (item.all (fun c => c == '*' || isWhiteSpace c) = true)
    (by simp [Nameless])

/-- The second item is the first one with further stars, in any places. -/
inductive Starred : List Char → List Char → Prop
  | nil : Starred [] []
  | keep (c : Char) {item starred : List Char} (rest : Starred item starred) :
      Starred (c :: item) (c :: starred)
  | star {item starred : List Char} (rest : Starred item starred) : Starred item ('*' :: starred)

/-! ## One item -/

section Items

variable {item starred : List Char}

theorem white_filter_iff : White (item.filter (· ≠ '*')) ↔ Nameless item := by
  constructor
  · intro white c inside
    by_cases star : c = '*'
    · exact .inl star
    · exact .inr (white c (List.mem_filter.mpr ⟨inside, decide_eq_true star⟩))
  · intro nameless c kept
    obtain ⟨inside, other⟩ := List.mem_filter.mp kept
    exact (nameless c inside).resolve_left (of_decide_eq_true other)

theorem attribute?_eq_none_iff : attribute? item = none ↔ Nameless item := by
  rw [← white_filter_iff, ← trim_eq_nil_iff, attribute?]
  cases trim (item.filter (· ≠ '*')) with
  | nil => simp
  | cons c cs => simp

theorem attribute?_of_named (named : ¬ Nameless item) :
    attribute? item = some {
      name := String.ofList (trim (item.filter (· ≠ '*')))
      primary := decide ('*' ∈ item) } := by
  rw [← white_filter_iff, ← trim_eq_nil_iff] at named
  obtain ⟨c, cs, name⟩ := List.exists_cons_of_ne_nil named
  rw [attribute?, name, List.contains_eq_mem]

theorem Starred.filter_eq (more : Starred item starred) :
    starred.filter (· ≠ '*') = item.filter (· ≠ '*') := by
  induction more with
  | nil => rfl
  | keep c rest ih => rw [List.filter_cons, List.filter_cons, ih]
  | star rest ih => rw [List.filter_cons_of_neg (by decide), ih]

theorem Starred.subset (more : Starred item starred) : item ⊆ starred := by
  induction more with
  | nil => exact List.Subset.refl []
  | keep c rest ih => exact List.cons_subset_cons c ih
  | star rest ih => exact List.subset_cons_of_subset '*' ih

theorem Starred.attribute?_eq (more : Starred item starred) (star : '*' ∈ item) :
    attribute? starred = attribute? item := by
  have before : item.contains '*' = true := List.contains_iff_mem.mpr star
  have after : starred.contains '*' = true := List.contains_iff_mem.mpr (more.subset star)
  rw [attribute?, attribute?, more.filter_eq, before, after]

/-- A star is no comma, so the item stays in one piece. -/
theorem Starred.whole (more : Starred item starred) (whole : ',' ∉ item) : ',' ∉ starred := by
  have kept {cs : List Char} : ',' ∈ cs ↔ ',' ∈ cs.filter (· ≠ '*') := by simp
  rwa [kept, more.filter_eq, ← kept]

theorem Nameless.whole (nameless : Nameless item) : ',' ∉ item := by
  intro comma
  rcases nameless ',' comma with star | space
  · cases star
  · exact absurd space (by decide)

theorem attributes_eq_nil_iff (whole : ',' ∉ item) : attributes item = [] ↔ Nameless item := by
  rw [attributes_of_not_mem whole, Option.toList_eq_nil_iff, attribute?_eq_none_iff]

end Items

/-! ## The list -/

/-- Items with commas between them, which may hold commas themselves. -/
theorem attributes_intercalate (items : List (List Char)) :
    attributes (List.intercalate [','] items) = items.flatMap attributes := by
  induction items with
  | nil => decide
  | cons item rest ih =>
    cases rest with
    | nil => simp
    | cons next others =>
      rw [List.intercalate_cons_cons, List.append_assoc, List.singleton_append, attributes_append,
        ih]
      exact List.flatMap_cons.symm

theorem attributes_around (before after : List (List Char)) (item : List Char) :
    attributes (List.intercalate [','] (before ++ item :: after)) =
      before.flatMap attributes ++ (attributes item ++ after.flatMap attributes) := by
  rw [attributes_intercalate, List.flatMap_append, List.flatMap_cons]

/-- A list may be cut at every comma. An item stands for nothing exactly if it is stars and white
space only, and for the one attribute of its trimmed name otherwise, which is a key exactly if the
item has a star. So further stars in an item that has one change nothing, and neither does an item
without a name. -/
theorem attributes_by_item :
    (∀ before after,
        attributes (before ++ ',' :: after) = attributes before ++ attributes after) ∧
      (∀ item, ',' ∉ item →
        (attributes item = [] ↔ Nameless item) ∧
          (¬ Nameless item → attributes item = [{
            name := String.ofList (trim (item.filter (· ≠ '*')))
            primary := decide ('*' ∈ item)
            foreign := false }])) ∧
      (∀ before after item starred, ',' ∉ item → '*' ∈ item → Starred item starred →
        attributes (List.intercalate [','] (before ++ starred :: after)) =
          attributes (List.intercalate [','] (before ++ item :: after))) ∧
      ∀ before after item, Nameless item →
        attributes (List.intercalate [','] (before ++ item :: after)) =
          attributes (List.intercalate [','] (before ++ after)) := by
  refine ⟨attributes_append, fun item whole => ⟨attributes_eq_nil_iff whole, fun named => ?_⟩,
    fun before after item starred whole star more => ?_, fun before after item nameless => ?_⟩
  · rw [attributes_of_not_mem whole, attribute?_of_named named]
    rfl
  · rw [attributes_around, attributes_around, attributes_of_not_mem whole,
      attributes_of_not_mem (more.whole whole), more.attribute?_eq star]
  · rw [attributes_around, (attributes_eq_nil_iff nameless.whole).mpr nameless,
      attributes_intercalate, List.flatMap_append, List.nil_append]

/-- Stars in front of a no-break space, inside the name and at its end, with items of blanks and
stars around it. -/
theorem attributes_by_item_hidden_blank :
    let item := "* \u00a0a b *".toList
    let starred := "*** \u00a0*a *b **".toList
    let nothing := " *\u3000* ".toList
    let key : Attribute := { name := "a b", primary := true }
    (',' ∉ item ∧ '*' ∈ item ∧ ¬ Nameless item ∧ Starred item starred ∧ Nameless nothing) ∧
      attributes item = [key] ∧
      attributes (List.intercalate [','] ([nothing] ++ starred :: [nothing])) = [key] := by
  intro item starred nothing key
  obtain ⟨-, single, stars, idle⟩ := attributes_by_item
  have whole : ',' ∉ item := by decide
  have star : '*' ∈ item := by decide
  have named : ¬ Nameless item := by decide
  have nameless : Nameless nothing := by decide
  have more : Starred item starred :=
    .keep _ (.star (.star (.keep _ (.keep _ (.star (.keep _ (.keep _ (.star (.keep _
      (.keep _ (.keep _ (.star .nil))))))))))))
  have read : attributes item = [key] := (single item whole).2 named
  refine ⟨⟨whole, star, named, more, nameless⟩, read, ?_⟩
  calc
    attributes (List.intercalate [','] ([nothing] ++ starred :: [nothing]))
      = attributes (List.intercalate [','] ([nothing] ++ item :: [nothing])) :=
        stars [nothing] [nothing] item starred whole star more
    _ = attributes (List.intercalate [','] ([nothing, item] ++ [])) :=
        idle [nothing, item] [] nothing nameless
    _ = attributes (List.intercalate [','] ([] ++ [item])) := idle [] [item] nothing nameless
    _ = [key] := read

end EntityDiagram.Line
