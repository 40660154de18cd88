import EntityDiagram.Proofs.Source.Reading
import Mathlib.Data.Finset.Card

/-! # The model as a store

A model is built by declarations, one after the other. It has every declared name as a key once, at
the place of its first declaration and with the attributes of its last one, and it keeps every
relationship. This holds after every declaration, so it holds of the model that a document gives.
-/

namespace EntityDiagram

open Text

/-! ## Declarations -/

/-- What can be added to a model. -/
inductive Declaration where
  | entity (e : Entity)
  | relationship (r : Relationship)
  deriving DecidableEq, Repr

namespace Declaration

def entity? : Declaration → Option Entity
  | entity e => some e
  | relationship _ => none

def relationship? : Declaration → Option Relationship
  | entity _ => none
  | relationship r => some r

/-- The declared entities, in order and with all that are replaced later. -/
def entities (ds : List Declaration) : List Entity := ds.filterMap entity?

def relationships (ds : List Declaration) : List Relationship := ds.filterMap relationship?

theorem entities_append (before after : List Declaration) :
    entities (before ++ after) = entities before ++ entities after :=
  List.filterMap_append

theorem relationships_append (before after : List Declaration) :
    relationships (before ++ after) = relationships before ++ relationships after :=
  List.filterMap_append

/-- Every declaration adds to one of the two lists. -/
theorem eq_nil_iff {ds : List Declaration} :
    ds = [] ↔ entities ds = [] ∧ relationships ds = [] := by
  constructor
  · rintro rfl
    exact ⟨rfl, rfl⟩
  · rintro ⟨entities, relationships⟩
    cases ds with
    | nil => rfl
    | cons d rest =>
      cases d with
      | entity e => cases entities
      | relationship r => cases relationships

end Declaration

def Line.declaration? : Line → Option Declaration
  | .entity e => some (.entity e)
  | .relationship r => some (.relationship r)
  | .unmatched => none

/-- What the lines of a text declare, in order. -/
def Document.declarations (text : String) : List Declaration :=
  (lines text.toList).filterMap fun line => (lineOf line).declaration?

/-- No later one among `es` has the name of `e`. -/
def Entity.LastOf (e : Entity) (es : List Entity) : Prop :=
  ∃ before after, es = before ++ e :: after ∧ ∀ later ∈ after, later.name ≠ e.name

namespace Model

def add (m : Model) : Declaration → Model
  | .entity e => (m.insert e).2
  | .relationship r => m.relate r

def build (ds : List Declaration) : Model := ds.foldl add .empty

/-- What `m` lists and finds is what `ds` declare. -/
structure Holds (m : Model) (ds : List Declaration) : Prop where
  keys : m.stored = m.entities.map fun e => (e.name, e)
  names : m.entities.map Entity.name = ((Declaration.entities ds).map Entity.name).eraseDups
  once : (m.entities.map Entity.name).Nodup
  last : ∀ e, e ∈ m.entities ↔ e.LastOf (Declaration.entities ds)
  found : ∀ name e, m.entity? name = some e ↔
    e.name = name ∧ e.LastOf (Declaration.entities ds)
  missing : ∀ name, m.entity? name = none ↔ name ∉ (Declaration.entities ds).map Entity.name
  replaced : ∀ e, (m.insert e).1 = m.entity? e.name
  relationships : m.relationships = Declaration.relationships ds
  count : m.entities.length = ((Declaration.entities ds).map Entity.name).toFinset.card
  empty : m.isEmpty = true ↔ ds = []

end Model

/-! ## What is held -/

/-- A name that comes last stays only if it is new. -/
theorem eraseDups_concat (names : List String) (name : String) :
    (names ++ [name]).eraseDups =
      if name ∈ names then names.eraseDups else names.eraseDups ++ [name] := by
  rw [List.eraseDups_append, List.removeAll]
  by_cases known : name ∈ names
  · simp [known]
  · simp [known, List.eraseDups_cons]

namespace Model

theorem build_append (ds : List Declaration) (d : Declaration) :
    build (ds ++ [d]) = (build ds).add d := by
  rw [build, List.foldl_append]
  rfl

theorem names_build (ds : List Declaration) :
    (build ds).entities.map Entity.name =
      ((Declaration.entities ds).map Entity.name).eraseDups := by
  induction ds using List.reverseRecOn with
  | nil => rfl
  | append_singleton ds d ih =>
    rw [build_append, Declaration.entities_append, List.map_append]
    cases d with
    | entity e =>
      refine (names_insert (build ds) e).trans ?_
      rw [ih]
      simp only [List.mem_eraseDups]
      exact (eraseDups_concat ((Declaration.entities ds).map Entity.name) e.name).symm
    | relationship r =>
      refine ih.trans (congrArg List.eraseDups ?_)
      exact (List.append_nil _).symm

theorem entity?_build (ds : List Declaration) (name : String) :
    (build ds).entity? name = (Declaration.entities ds).reverse.find? (·.name = name) := by
  induction ds using List.reverseRecOn with
  | nil => rfl
  | append_singleton ds d ih =>
    rw [build_append, Declaration.entities_append, List.reverse_append]
    cases d with
    | entity e =>
      refine (entity?_insert (build ds) e name).trans ?_
      change _ = (e :: (Declaration.entities ds).reverse).find? (·.name = name)
      by_cases same : e.name = name
      · rw [if_pos same, List.find?_cons_of_pos (by simpa using same)]
      · rw [if_neg same, List.find?_cons_of_neg (by simpa using same), ih]
    | relationship r => exact ih

theorem relationships_build (ds : List Declaration) :
    (build ds).relationships = Declaration.relationships ds := by
  induction ds using List.reverseRecOn with
  | nil => rfl
  | append_singleton ds d ih =>
    rw [build_append, Declaration.relationships_append, ← ih]
    cases d with
    | entity e => exact (List.append_nil _).symm
    | relationship r => rfl

theorem entity?_build_eq_some_iff {ds : List Declaration} {name : String} {e : Entity} :
    (build ds).entity? name = some e ↔ e.name = name ∧ e.LastOf (Declaration.entities ds) := by
  rw [entity?_build, List.find?_eq_some_iff_append, decide_eq_true_eq]
  refine and_congr_right fun same => ⟨?_, ?_⟩
  · rintro ⟨after, before, split, others⟩
    refine ⟨before.reverse, after.reverse, ?_, fun later member => ?_⟩
    · rw [← List.reverse_reverse (Declaration.entities ds), split]
      simp
    · simpa [same] using others later (List.mem_reverse.mp member)
  · rintro ⟨before, after, split, others⟩
    refine ⟨after.reverse, before.reverse, ?_, fun later member => ?_⟩
    · rw [split]
      simp
    · simpa [same] using others later (List.mem_reverse.mp member)

theorem entity?_build_eq_none_iff {ds : List Declaration} {name : String} :
    (build ds).entity? name = none ↔ name ∉ (Declaration.entities ds).map Entity.name := by
  rw [entity?_build, List.find?_eq_none]
  simp

theorem length_entities_build (ds : List Declaration) :
    (build ds).entities.length = ((Declaration.entities ds).map Entity.name).toFinset.card := by
  have same : ((Declaration.entities ds).map Entity.name).toFinset =
      ((build ds).entities.map Entity.name).toFinset := by
    ext name
    rw [List.mem_toFinset, List.mem_toFinset, names_build, List.mem_eraseDups]
  rw [same, List.toFinset_card_of_nodup (build ds).nodup_names, List.length_map]

theorem isEmpty_build_iff {ds : List Declaration} : (build ds).isEmpty = true ↔ ds = [] := by
  have entities : (build ds).entities = [] ↔ Declaration.entities ds = [] := by
    rw [← List.length_eq_zero_iff, length_entities_build, Finset.card_eq_zero,
      List.toFinset_eq_empty_iff, List.map_eq_nil_iff]
  rw [isEmpty_iff, entities, relationships_build, Declaration.eq_nil_iff]

theorem holds_build (ds : List Declaration) : (build ds).Holds ds where
  keys := (build ds).stored_eq
  names := names_build ds
  once := (build ds).nodup_names
  last e := by
    rw [mem_entities_iff, entity?_build_eq_some_iff]
    exact and_iff_right rfl
  found name e := entity?_build_eq_some_iff
  missing name := entity?_build_eq_none_iff
  replaced e := insert_fst (build ds) e
  relationships := relationships_build ds
  count := length_entities_build ds
  empty := isEmpty_build_iff

/-- Lines that declare nothing leave no trace. -/
theorem foldl_declare (lines : List Line) (m : Model) :
    lines.foldl declare m = (lines.filterMap Line.declaration?).foldl add m := by
  induction lines generalizing m with
  | nil => rfl
  | cons line rest ih => cases line <;> exact ih _

theorem parse_value_eq_build (text : String) :
    (Document.parse text).value = build (Document.declarations text) := by
  rw [Document.parse_value, foldl_declare, List.filterMap_map]
  rfl

/-- Whatever is declared, in whatever order and however often, the model holds it; and a document
is held as the declarations on its lines. -/
theorem declared_holds :
    (∀ ds, (build ds).Holds ds) ∧
      ∀ text, (Document.parse text).value.Holds (Document.declarations text) := by
  refine ⟨holds_build, fun text => ?_⟩
  rw [parse_value_eq_build]
  exact holds_build (Document.declarations text)

end Model

end EntityDiagram
