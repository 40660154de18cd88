import EntityDiagram.Drawing.Label
import EntityDiagram.Drawing.Name

/-! # The description of a model

One statement per entity and one per relationship, in order. Relationships are written as they
are, whether or not their ends are declared; cardinalities are left out.
-/

namespace EntityDiagram

namespace Description

open Drawing

def opening : List Char := "digraph ERD \x7b\nrankdir=".toList ++ direction.toList ++ ";\n".toList

def entityLine (e : Entity) : List Char :=
  quotedName e.name ++ " [shape=plaintext, label=<".toList ++ Label.markup e ++ ">];\n".toList

def relationshipLine (r : Relationship) : List Char :=
  quotedName r.source ++ " -> ".toList ++ quotedName r.target ++ " [label=".toList ++
    quotedName r.relation ++ "];\n".toList

def closing : List Char := "\x7d\n".toList

def text (m : Model) : List Char :=
  opening ++ m.entities.flatMap entityLine ++ m.relationships.flatMap relationshipLine ++ closing

def describe (m : Model) : String := String.ofList (text m)

end Description

end EntityDiagram
