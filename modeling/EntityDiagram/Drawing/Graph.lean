import EntityDiagram.Drawing.Label
import EntityDiagram.Log

/-! # The graph of a model

One node per entity and one edge per relationship. This is where the ends of relationships are
looked up: the first end, in order, that names no entity is an error.
-/

namespace EntityDiagram

structure Node where
  name : String
  label : String
  deriving DecidableEq, Repr

structure Edge where
  source : String
  target : String
  label : String
  deriving DecidableEq, Repr

structure Graph where
  nodes : List Node
  edges : List Edge
  deriving DecidableEq, Repr

namespace Graph

def nodeOf (e : Entity) : Node := { name := e.name, label := Label.render e }

def edgeOf (r : Relationship) : Edge :=
  { source := r.source, target := r.target, label := r.relation }

/-- The first end of `r` that `m` does not declare. -/
def undeclared? (m : Model) (r : Relationship) : Option String :=
  [r.source, r.target].find? fun name => (m.entity? name).isNone

def edgeAdded (r : Relationship) : Record where
  level := .debug
  origin := .drawing
  message := "Adding relationship edge"
  fields := [("from", r.source), ("to", r.target)]

/-- The edges, or the name of an end that is not declared. -/
def edgesOf (m : Model) : List Relationship → Logged (Except String (List Edge))
  | [] => pure (.ok [])
  | r :: rest =>
    match undeclared? m r with
    | some name => pure (.error name)
    | none => do
      Logged.say (edgeAdded r)
      let edges ← edgesOf m rest
      return edges.map (edgeOf r :: ·)

def ofModel (m : Model) : Logged (Except String Graph) := do
  let edges ← edgesOf m m.relationships
  return edges.map fun edges => { nodes := m.entities.map nodeOf, edges }

end Graph

end EntityDiagram
