import EntityDiagram.Drawing.Description
import EntityDiagram.Proofs.Drawing.Label

/-! # Reading descriptions back

A description is read as node statements followed by edge statements. Both begin with a quoted name,
and what comes next tells them apart, so no name can end a statement or begin one. What is read is
all of the model that a description depends on: everything but cardinalities and foreign flags.
-/

namespace EntityDiagram

open Text Drawing

/-! ## What a description shows -/

def Attribute.shown (a : Attribute) : String × Bool := (a.name, a.primary)

def Entity.shown (e : Entity) : String × List (String × Bool) :=
  (e.name, e.attributes.map Attribute.shown)

def Relationship.shown (r : Relationship) : String × String × String :=
  (r.source, r.target, r.relation)

def Model.shown (m : Model) :
    List (String × List (String × Bool)) × List (String × String × String) :=
  (m.entities.map Entity.shown, m.relationships.map Relationship.shown)

namespace Description

/-! ## Readers -/

/-- An entity is shown under its node's name, with the rows of its label. -/
def node? (cs : List Char) : Option ((String × List (String × Bool)) × List Char) := do
  let (name, rest) ← name? cs
  let rest ← dropStart? " [shape=plaintext, label=<".toList rest
  let (table, rest) ← Label.table? rest
  let rest ← dropStart? ">];\n".toList rest
  return ((name, table.rows.map fun row => (row.name, row.primary)), rest)

def edge? (cs : List Char) : Option ((String × String × String) × List Char) := do
  let (source, rest) ← name? cs
  let rest ← dropStart? " -> ".toList rest
  let (target, rest) ← name? rest
  let rest ← dropStart? " [label=".toList rest
  let (label, rest) ← name? rest
  let rest ← dropStart? "];\n".toList rest
  return ((source, target, label), rest)

def decode? (description : String) :
    Option (List (String × List (String × Bool)) × List (String × String × String)) := do
  let rest ← dropStart? opening description.toList
  let (nodes, rest) := many node? rest
  let (edges, rest) := many edge? rest
  if rest = closing then return (nodes, edges) else none

/-! ## What they read -/

theorem rows_shown (e : Entity) :
    (e.table.rows.map fun row => (row.name, row.primary)) = e.attributes.map Attribute.shown := by
  rw [Entity.table, List.map_map]
  rfl

theorem entityLine_append (e : Entity) (rest : List Char) :
    entityLine e ++ rest = quotedName e.name ++ (" [shape=plaintext, label=<".toList ++
      (Label.markup e ++ (">];\n".toList ++ rest))) := by
  change _ ++ _ ++ _ ++ _ ++ rest = _
  simp only [List.append_assoc]

theorem node?_entityLine (e : Entity) (rest : List Char) :
    node? (entityLine e ++ rest) = some (e.shown, rest) := by
  rw [entityLine_append, node?]
  simp only [name?_quotedName, dropStart?_append, Label.table?_markup, Option.bind_eq_bind,
    Option.bind_some, rows_shown]
  rfl

theorem relationshipLine_append (r : Relationship) (rest : List Char) :
    relationshipLine r ++ rest = quotedName r.source ++ (" -> ".toList ++ (quotedName r.target ++
      (" [label=".toList ++ (quotedName r.relation ++ ("];\n".toList ++ rest))))) := by
  change _ ++ _ ++ _ ++ _ ++ _ ++ _ ++ rest = _
  simp only [List.append_assoc]

theorem edge?_relationshipLine (r : Relationship) (rest : List Char) :
    edge? (relationshipLine r ++ rest) = some (r.shown, rest) := by
  rw [relationshipLine_append, edge?]
  simp only [name?_quotedName, dropStart?_append, Option.bind_eq_bind, Option.bind_some]
  rfl

/-- The nodes end where the edges begin: behind the name of a source no node goes on. -/
theorem node?_relationshipLines (rs : List Relationship) :
    node? (rs.flatMap relationshipLine ++ closing) = none := by
  cases rs with
  | nil => rfl
  | cons r rest =>
    have arrow (behind : List Char) :
        dropStart? " [shape=plaintext, label=<".toList (" -> ".toList ++ behind) = none := rfl
    rw [List.flatMap_cons, List.append_assoc, relationshipLine_append, node?]
    simp only [name?_quotedName, Option.bind_eq_bind, Option.bind_some, arrow]
    rfl

theorem decode?_describe (m : Model) : decode? (describe m) = some m.shown := by
  have nodes : many node? (m.entities.flatMap entityLine ++
      (m.relationships.flatMap relationshipLine ++ closing)) =
      (m.entities.map Entity.shown, m.relationships.flatMap relationshipLine ++ closing) :=
    many_flatMap node?_entityLine (fun e => List.cons_ne_nil _ _)
      (node?_relationshipLines m.relationships) m.entities
  have edges : many edge? (m.relationships.flatMap relationshipLine ++ closing) =
      (m.relationships.map Relationship.shown, closing) :=
    many_flatMap edge?_relationshipLine (fun r => List.cons_ne_nil _ _) rfl m.relationships
  rw [decode?, describe, String.toList_ofList]
  change (dropStart? opening (opening ++ _ ++ _ ++ _) >>= _) = _
  simp only [List.append_assoc, dropStart?_append, Option.bind_eq_bind, Option.bind_some, nodes,
    edges, if_pos]
  rfl

/-! ## What a description depends on -/

/-- An entity as its description shows it. -/
def entityOf (shown : String × List (String × Bool)) : Entity where
  name := shown.1
  attributes := shown.2.map fun (name, primary) => { name, primary }

def relationshipOf (shown : String × String × String) : Relationship where
  source := shown.1
  target := shown.2.1
  relation := shown.2.2

theorem markup_shown (e : Entity) : Label.markup (entityOf e.shown) = Label.markup e := by
  change _ ++ _ ++ (entityOf e.shown).attributes.flatMap Label.row ++ _ = _
  rw [entityOf, Entity.shown, List.map_map, List.flatMap_map]
  rfl

theorem entityLine_shown (e : Entity) : entityLine (entityOf e.shown) = entityLine e := by
  change quotedName e.name ++ _ ++ Label.markup (entityOf e.shown) ++ _ = _
  rw [markup_shown]
  rfl

/-- Nothing that is not shown has a part in the description. -/
theorem text_eq_shown (m : Model) :
    text m = opening ++ m.shown.1.flatMap (fun shown => entityLine (entityOf shown)) ++
      m.shown.2.flatMap (fun shown => relationshipLine (relationshipOf shown)) ++ closing := by
  have nodes : m.shown.1.flatMap (fun shown => entityLine (entityOf shown)) =
      m.entities.flatMap entityLine := by
    rw [Model.shown, List.flatMap_map]
    simp only [entityLine_shown]
  have edges : m.shown.2.flatMap (fun shown => relationshipLine (relationshipOf shown)) =
      m.relationships.flatMap relationshipLine := by
    rw [Model.shown, List.flatMap_map]
    rfl
  rw [nodes, edges]
  rfl

/-- A description says as much of a model as it shows, and no more. -/
theorem describe_eq_iff_shown :
    (∀ m, decode? (describe m) = some m.shown) ∧
      ∀ m n, describe m = describe n ↔
        m.entities.map Entity.shown = n.entities.map Entity.shown ∧
          m.relationships.map Relationship.shown = n.relationships.map Relationship.shown := by
  refine ⟨decode?_describe, fun m n => ⟨fun same => ?_, fun ⟨entities, relationships⟩ => ?_⟩⟩
  · have read := decode?_describe m
    rw [same, decode?_describe n] at read
    exact Prod.mk.inj (Option.some.inj read).symm
  · have shown : m.shown = n.shown := by rw [Model.shown, entities, relationships, Model.shown]
    rw [describe, describe, text_eq_shown, text_eq_shown, shown]

end Description

end EntityDiagram
