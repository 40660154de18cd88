import EntityDiagram.Export.Exporter
import EntityDiagram.Proofs.Model.Store

/-! # Graphs of models

A model has a graph if every end of its relationships is the name of an entity. The ends are looked
up in their order, each source before its target, so the first one that names no entity decides how
a failure reads. A graph shows its model as it is: a node for each entity and an edge for each
relationship, in the order of the model, and no edge leads to anything but a node.
-/

namespace EntityDiagram

def Relationship.ends (r : Relationship) : List String := [r.source, r.target]

namespace Model

/-- Some entity of `m` has the name. -/
def Declares (m : Model) (name : String) : Prop := ∃ e ∈ m.entities, e.name = name

instance (m : Model) (name : String) : Decidable (m.Declares name) :=
  inferInstanceAs (Decidable (∃ e ∈ m.entities, e.name = name))

/-- The ends of all relationships, in order. -/
def ends (m : Model) : List String := m.relationships.flatMap Relationship.ends

/-- `name` is an end that names no entity, and every end before it names one. -/
def FirstUndeclared (m : Model) (name : String) : Prop :=
  ∃ before after, m.ends = before ++ name :: after ∧
    (∀ earlier ∈ before, m.Declares earlier) ∧ ¬ m.Declares name

variable {m : Model} {name : String}

theorem declares_iff : m.Declares name ↔ name ∈ m.entities.map Entity.name := by
  rw [List.mem_map]
  rfl

/-- A look-up fails for the names that no entity has. -/
theorem isNone_entity?_iff : (m.entity? name).isNone = true ↔ ¬ m.Declares name := by
  rw [Option.isNone_iff_eq_none, entity?_eq_none_iff, declares_iff]

theorem declares_ends_iff : (∀ name ∈ m.ends, m.Declares name) ↔
    ∀ r ∈ m.relationships, m.Declares r.source ∧ m.Declares r.target := by
  rw [ends, List.forall_mem_flatMap]
  refine forall₂_congr fun r _ => ?_
  simp [Relationship.ends]

theorem find?_ends_eq_some_iff :
    m.ends.find? (fun name => (m.entity? name).isNone) = some name ↔ m.FirstUndeclared name := by
  rw [List.find?_eq_some_iff_append, isNone_entity?_iff]
  constructor
  · rintro ⟨missing, before, after, split, found⟩
    refine ⟨before, after, split, ?_, missing⟩
    intro earlier member
    have some := found earlier member
    rw [Bool.not_eq_true', Bool.eq_false_iff, ne_eq, isNone_entity?_iff, not_not] at some
    exact some
  · rintro ⟨before, after, split, declared, missing⟩
    refine ⟨missing, before, after, split, ?_⟩
    intro earlier member
    rw [Bool.not_eq_true', Bool.eq_false_iff, ne_eq, isNone_entity?_iff, not_not]
    exact declared earlier member

theorem find?_ends_eq_none_iff :
    m.ends.find? (fun name => (m.entity? name).isNone) = none ↔
      ∀ r ∈ m.relationships, m.Declares r.source ∧ m.Declares r.target := by
  rw [← declares_ends_iff, List.find?_eq_none]
  simp only [isNone_entity?_iff, not_not]

end Model

namespace Graph

/-- `g` shows the entities and relationships of `m` and nothing else. -/
structure Mirrors (g : Graph) (m : Model) : Prop where
  nodes : g.nodes = m.entities.map fun e => { name := e.name, label := Label.render e }
  distinct : (g.nodes.map Node.name).Nodup
  edges : g.edges = m.relationships.map fun r =>
    { source := r.source, target := r.target, label := r.relation }
  resolved : ∀ e ∈ g.edges,
    e.source ∈ g.nodes.map Node.name ∧ e.target ∈ g.nodes.map Node.name

/-! ## Looking up the ends -/

variable {m : Model} {g : Graph} {name : String}

/-- A relationship adds its edge in front, unless one of its ends is missing. -/
theorem edgesOf_cons (m : Model) (r : Relationship) (rest : List Relationship) :
    (edgesOf m (r :: rest)).value =
      match undeclared? m r with
      | some name => .error name
      | none => (edgesOf m rest).value.map (edgeOf r :: ·) := by
  rw [edgesOf]
  cases undeclared? m r with
  | some name => rfl
  | none => rfl

/-- The first end that is missing decides, and if there is none the edges are complete. -/
theorem edgesOf_value (m : Model) (rs : List Relationship) :
    (edgesOf m rs).value =
      match (rs.flatMap Relationship.ends).find? (fun name => (m.entity? name).isNone) with
      | some name => .error name
      | none => .ok (rs.map edgeOf) := by
  induction rs with
  | nil => rfl
  | cons r rest ih =>
    have first : r.ends.find? (fun name => (m.entity? name).isNone) = undeclared? m r := rfl
    rw [edgesOf_cons, ih, List.flatMap_cons, List.find?_append, first]
    cases undeclared? m r with
    | some name => rfl
    | none =>
      rw [Option.none_or]
      cases (rest.flatMap Relationship.ends).find? fun name => (m.entity? name).isNone with
      | some name => rfl
      | none => rfl

theorem ofModel_value (m : Model) :
    (ofModel m).value =
      match m.ends.find? (fun name => (m.entity? name).isNone) with
      | some name => .error name
      | none => .ok { nodes := m.entities.map nodeOf, edges := m.relationships.map edgeOf } := by
  simp only [ofModel, Logged.value_bind, Logged.value_pure, edgesOf_value, Model.ends]
  split
  · rfl
  · rfl

theorem ofModel_eq_error_iff : (ofModel m).value = .error name ↔ m.FirstUndeclared name := by
  rw [ofModel_value, ← Model.find?_ends_eq_some_iff]
  split
  · next other found => rw [found, Except.error.injEq, Option.some.injEq]
  · next found => simp [found]

theorem ofModel_eq_ok_iff : (ofModel m).value = .ok g ↔
    (∀ r ∈ m.relationships, m.Declares r.source ∧ m.Declares r.target) ∧
      g = { nodes := m.entities.map nodeOf, edges := m.relationships.map edgeOf } := by
  rw [ofModel_value, ← Model.find?_ends_eq_none_iff]
  split
  · next other found => simp [found]
  · next found => simp [found, eq_comm]

/-! ## Nodes and edges -/

theorem names_nodes (m : Model) :
    (m.entities.map nodeOf).map Node.name = m.entities.map Entity.name := by
  rw [List.map_map]
  rfl

theorem ofModel_eq_ok_iff_mirrors : (ofModel m).value = .ok g ↔ g.Mirrors m := by
  rw [ofModel_eq_ok_iff]
  constructor
  · rintro ⟨declared, rfl⟩
    refine ⟨rfl, ?_, rfl, ?_⟩
    · rw [names_nodes]
      exact m.nodup_names
    · intro e member
      obtain ⟨r, listed, rfl⟩ := List.mem_map.mp member
      rw [names_nodes, ← Model.declares_iff, ← Model.declares_iff]
      exact declared r listed
  · intro mirrors
    have names : g.nodes.map Node.name = m.entities.map Entity.name := by
      rw [mirrors.nodes]
      exact names_nodes m
    refine ⟨?_, ?_⟩
    · intro r listed
      have edge : edgeOf r ∈ g.edges := by
        rw [mirrors.edges]
        exact List.mem_map_of_mem listed
      have ends := mirrors.resolved _ edge
      rw [names] at ends
      exact ⟨Model.declares_iff.mpr ends.1, Model.declares_iff.mpr ends.2⟩
    · cases g
      cases mirrors.nodes
      cases mirrors.edges
      rfl

/-- A model has a graph if and only if every end of its relationships is declared, the graph is the
one that mirrors the model, and a model without one is refused for the first end that is not
declared, whatever it is rendered with. -/
theorem ofModel_resolves (m : Model) :
    ((∃ g, (ofModel m).value = .ok g) ↔
        ∀ r ∈ m.relationships, m.Declares r.source ∧ m.Declares r.target) ∧
      (∀ g, (ofModel m).value = .ok g ↔ g.Mirrors m) ∧
      (∀ name, (ofModel m).value = .error name ↔ m.FirstUndeclared name) ∧
      ∀ name, m.FirstUndeclared name →
        ∀ (x : Exporter) (layout : Layout) (output : Path) (files : Files),
          (x.tryRender layout m output files).2.result = .error (.unknownEntity name) := by
  refine ⟨?_, fun g => ofModel_eq_ok_iff_mirrors, fun name => ofModel_eq_error_iff, ?_⟩
  · simp only [ofModel_eq_ok_iff, exists_and_left, exists_eq, and_true]
  · intro name first x layout output files
    have refused := ofModel_eq_error_iff.mpr first
    simp only [Exporter.tryRender, Exporter.writeImage, refused]

/-- Two edges from a node to itself are fine; of three missing ends the first one is named. -/
theorem ofModel_resolves_missing_target :
    let loop : Relationship := { source := "A", target := "A", relation := "r" }
    let lost : Relationship := { source := "A", target := "X", relation := "r" }
    let stray : Relationship := { source := "Y", target := "X", relation := "r" }
    let m : Model := {
      stored := [("A", { name := "A" })]
      relationships := [loop, loop, lost, stray] }
    let x : Exporter := {}
    m.FirstUndeclared "X" ∧
      (x.tryRender (fun _ => pure (.ok [1])) m ⟨"er"⟩ {}).2.result =
        .error (.unknownEntity "X") := by
  intro loop lost stray m x
  have first : m.FirstUndeclared "X" := by
    refine ⟨["A", "A", "A", "A", "A"], ["Y", "X"], rfl, ?_, ?_⟩
    · decide
    · decide
  obtain ⟨-, -, -, refused⟩ := ofModel_resolves m
  exact ⟨first, refused "X" first x _ _ _⟩

end Graph

end EntityDiagram
