import EntityDiagram.Drawing.Graph
import EntityDiagram.Drawing.Name

/-! # Input of the layout tool

A graph is handed to the layout tool as a digraph of statements, printed one to a line.
-/

namespace EntityDiagram

inductive Statement where
  | graph (attributes : List (String × List Char))
  | node (name : List Char) (attributes : List (String × List Char))
  | edge (source target : List Char) (attributes : List (String × List Char))
  deriving DecidableEq, Repr

namespace Statement

def attributeList (attributes : List (String × List Char)) : List Char :=
  '[' :: (List.intercalate [' '] (attributes.map fun (key, value) => key.toList ++ '=' :: value))
    ++ [']']

def text : Statement → List Char
  | graph attributes => "graph".toList ++ attributeList attributes
  | node name attributes => name ++ attributeList attributes
  | edge source target attributes =>
    source ++ " -> ".toList ++ target ++ " ".toList ++ attributeList attributes

end Statement

structure Digraph where
  name : String
  statements : List Statement
  deriving DecidableEq, Repr

namespace Digraph

open Drawing

def nodeStatement (n : Node) : Statement :=
  .node (quotedName n.name)
    [("shape", "plaintext".toList), ("label", '<' :: n.label.toList ++ ['>'])]

def edgeStatement (e : Edge) : Statement :=
  .edge (quotedName e.source) (quotedName e.target) [("label", quotedName e.label)]

def ofGraph (g : Graph) : Digraph where
  name := "ERD"
  statements :=
    .graph [("rankdir", direction.toList)] :: g.nodes.map nodeStatement ++ g.edges.map edgeStatement

def text (d : Digraph) : List Char :=
  "digraph ".toList ++ d.name.toList ++ " \x7b\n".toList ++
    d.statements.flatMap (fun s => "  ".toList ++ s.text ++ ['\n']) ++ ['}']

def render (d : Digraph) : String := String.ofList d.text

end Digraph

end EntityDiagram
