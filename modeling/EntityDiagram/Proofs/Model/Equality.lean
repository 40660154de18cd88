import EntityDiagram.Proofs.Model.Store
import Mathlib.Data.List.Perm.Subperm
import Mathlib.Logic.Relation

/-! # Equal models

Two models are equal if every name finds the same in both and their relationships are the same in
the same order; the order of the entities has no part in it. So of the order of declarations only
two things matter: the order among the relationships, and which of several declarations of one name
comes last. Lines that differ in neither may change places.
-/

namespace EntityDiagram

open Text

namespace Model

variable {m n : Model}

theorem nodup_entities (m : Model) : m.entities.Nodup := m.nodup_names.of_map

theorem perm_of_found (found : ∀ name, m.entity? name = n.entity? name) :
    m.entities.Perm n.entities := by
  rw [List.perm_ext_iff_of_nodup m.nodup_entities n.nodup_entities]
  intro e
  rw [mem_entities_iff, mem_entities_iff, found]

theorem found_of_perm (perm : m.entities.Perm n.entities) (name : String) :
    m.entity? name = n.entity? name := by
  ext e
  rw [entity?_eq_some_iff, entity?_eq_some_iff, perm.mem_iff]

theorem agrees_iff_found :
    m.agrees n = true ↔
      (∀ name, m.entity? name = n.entity? name) ∧ m.relationships = n.relationships := by
  rw [agrees, m.stored_eq, n.stored_eq, List.length_map, List.length_map, List.all_map,
    Bool.and_eq_true, Bool.and_eq_true, beq_iff_eq, beq_iff_eq, List.all_eq_true]
  refine and_congr_left fun _ => ⟨?_, fun found => ?_⟩
  · rintro ⟨length, listed⟩
    have within : m.entities ⊆ n.entities :=
      fun e member => mem_entities_iff.mpr (beq_iff_eq.mp (listed e member))
    have perm := (m.nodup_entities.subperm within).perm_of_length_le length.ge
    exact found_of_perm perm
  · refine ⟨(perm_of_found found).length_eq, fun e member => ?_⟩
    rw [Function.comp_apply, beq_iff_eq, ← found]
    exact mem_entities_iff.mp member

end Model

/-! ## What the order of declarations decides -/

/-- The relationships are the same in the same order, and of every name that either declares both
give the same entity last. -/
structure Declaration.Same (ds es : List Declaration) : Prop where
  relationships : relationships ds = relationships es
  names : ∀ name, name ∈ (entities ds).map Entity.name ↔ name ∈ (entities es).map Entity.name
  last : ∀ e f : Entity, e.LastOf (entities ds) → f.LastOf (entities es) → e.name = f.name → e = f

theorem Model.agrees_build_iff {ds es : List Declaration} :
    (build ds).agrees (build es) = true ↔ Declaration.Same ds es := by
  rw [agrees_iff_found, relationships_build, relationships_build]
  constructor
  · rintro ⟨found, relationships⟩
    refine ⟨relationships, fun name => ?_, fun e f left right named => ?_⟩
    · rw [← not_iff_not, ← entity?_build_eq_none_iff, ← entity?_build_eq_none_iff, found]
    · have first := entity?_build_eq_some_iff.mpr ⟨named, left⟩
      rw [found, entity?_build_eq_some_iff.mpr ⟨rfl, right⟩] at first
      exact (Option.some.inj first).symm
  · intro same
    refine ⟨fun name => ?_, same.relationships⟩
    cases first : (build ds).entity? name with
    | none =>
      rw [entity?_build_eq_none_iff, same.names, ← entity?_build_eq_none_iff] at first
      exact first.symm
    | some e =>
      cases second : (build es).entity? name with
      | none =>
        rw [entity?_build_eq_none_iff, ← same.names, ← entity?_build_eq_none_iff, first] at second
        cases second
      | some f =>
        obtain ⟨left, e_last⟩ := entity?_build_eq_some_iff.mp first
        obtain ⟨right, f_last⟩ := entity?_build_eq_some_iff.mp second
        rw [same.last e f e_last f_last (left.trans right.symm)]

/-! ## Lines that change places -/

/-- Either line may come first: they do not declare one name and are not both relationships. -/
def Line.Independent : Line → Line → Prop
  | .entity e, .entity f => e.name ≠ f.name
  | .relationship _, .relationship _ => False
  | _, _ => True

instance : (first second : Line) → Decidable (first.Independent second)
  | .entity e, .entity f => inferInstanceAs (Decidable (e.name ≠ f.name))
  | .relationship _, .relationship _ => .isFalse id
  | .entity _, .relationship _ | .entity _, .unmatched | .relationship _, .entity _
  | .relationship _, .unmatched | .unmatched, _ => .isTrue trivial

/-- Two neighbouring lines change places. -/
inductive Document.Swap : List (List Char) → List (List Char) → Prop
  | swap (before : List (List Char)) {first second : List Char} (after : List (List Char))
      (independent : (lineOf first).Independent (lineOf second)) :
      Swap (before ++ first :: second :: after) (before ++ second :: first :: after)

namespace Model

variable {m n : Model}

/-- What a line declares does not tell equal models apart. -/
theorem agrees_declare (same : m.agrees n = true) (line : Line) :
    (m.declare line).agrees (n.declare line) = true := by
  rw [agrees_iff_found] at same ⊢
  obtain ⟨found, relationships⟩ := same
  cases line with
  | entity e =>
    refine ⟨fun name => ?_, relationships⟩
    rw [declare, declare, entity?_insert, entity?_insert, found]
  | relationship r => exact ⟨found, congrArg (· ++ [r]) relationships⟩
  | unmatched => exact ⟨found, relationships⟩

theorem agrees_foldl (same : m.agrees n = true) (lines : List Line) :
    (lines.foldl declare m).agrees (lines.foldl declare n) = true := by
  induction lines generalizing m n with
  | nil => exact same
  | cons line rest ih => exact ih (agrees_declare same line)

theorem agrees_declare_comm (m : Model) {first second : Line}
    (independent : first.Independent second) :
    ((m.declare first).declare second).agrees ((m.declare second).declare first) = true := by
  rw [agrees_iff_found]
  cases first with
  | entity e =>
    cases second with
    | entity f =>
      refine ⟨fun name => ?_, rfl⟩
      simp only [declare, entity?_insert]
      by_cases left : e.name = name
      · have right : f.name ≠ name := fun taken => independent (left.trans taken.symm)
        simp only [left, right, if_true, if_false]
      · simp only [left, if_false]
    | relationship r => exact ⟨fun name => rfl, rfl⟩
    | unmatched => exact ⟨fun name => rfl, rfl⟩
  | relationship r =>
    cases second with
    | entity f => exact ⟨fun name => rfl, rfl⟩
    | relationship s => exact independent.elim
    | unmatched => exact ⟨fun name => rfl, rfl⟩
  | unmatched => exact ⟨fun name => rfl, rfl⟩

theorem agrees_refl (m : Model) : m.agrees m = true := agrees_iff_found.mpr ⟨fun _ => rfl, rfl⟩

theorem agrees_trans {k : Model} (first : k.agrees m = true) (second : m.agrees n = true) :
    k.agrees n = true := by
  rw [agrees_iff_found] at first second ⊢
  exact ⟨fun name => (first.1 name).trans (second.1 name), first.2.trans second.2⟩

end Model

namespace Document

/-- The model that lines give. -/
def modelOf (lines : List (List Char)) : Model := (lines.map lineOf).foldl Model.declare .empty

theorem Swap.agrees {ls ks : List (List Char)} (swap : Swap ls ks) :
    (modelOf ls).agrees (modelOf ks) = true := by
  obtain ⟨before, after, independent⟩ := swap
  simp only [modelOf, List.map_append, List.map_cons, List.foldl_append, List.foldl_cons]
  exact Model.agrees_foldl (Model.agrees_declare_comm _ independent) _

theorem agrees_of_swaps {ls ks : List (List Char)} (swaps : Relation.ReflTransGen Swap ls ks) :
    (modelOf ls).agrees (modelOf ks) = true := by
  induction swaps with
  | refl => exact Model.agrees_refl _
  | tail _ swap ih => exact Model.agrees_trans ih swap.agrees

end Document

end EntityDiagram
