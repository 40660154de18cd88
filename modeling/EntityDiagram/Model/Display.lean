import EntityDiagram.Model.Basic
import EntityDiagram.Text.Quoted

/-! # A model as a log value

The text that shows a whole model in a log record, with every field named.
-/

namespace EntityDiagram

open Text

def listed (items : List String) : String := "[" ++ ", ".intercalate items ++ "]"

def Attribute.display (a : Attribute) : String :=
  "Attribute \x7b name: " ++ quoted a.name ++ ", is_primary: " ++ toString a.primary ++
    ", is_foreign: " ++ toString a.foreign ++ " \x7d"

def Entity.display (e : Entity) : String :=
  "Entity \x7b name: " ++ quoted e.name ++ ", attributes: " ++
    listed (e.attributes.map Attribute.display) ++ " \x7d"

def Relationship.display (r : Relationship) : String :=
  "Relationship \x7b entity1: " ++ quoted r.source ++ ", entity2: " ++ quoted r.target ++
    ", relation: " ++ quoted r.relation ++ ", cardinality: " ++ quoted r.cardinality ++ " \x7d"

def Model.display (m : Model) : String :=
  "Model \x7b entities: \x7b" ++
    ", ".intercalate (m.stored.map fun entry => quoted entry.1 ++ ": " ++ entry.2.display) ++
    "\x7d, relationships: " ++ listed (m.relationships.map Relationship.display) ++ " \x7d"

end EntityDiagram
