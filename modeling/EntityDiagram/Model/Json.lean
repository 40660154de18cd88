import EntityDiagram.Json.Printer
import EntityDiagram.Model.Basic

/-! # A model as JSON

Entities are the members of an object, keyed by name in the order of the model; relationships are
an array.
-/

namespace EntityDiagram

def Attribute.toValue (a : Attribute) : Value :=
  .record [("name", .text a.name), ("is_primary", .bool a.primary), ("is_foreign", .bool a.foreign)]

def Entity.toValue (e : Entity) : Value :=
  .record [("name", .text e.name), ("attributes", .array (e.attributes.map Attribute.toValue))]

def Relationship.toValue (r : Relationship) : Value :=
  .record [("entity1", .text r.source), ("entity2", .text r.target), ("relation", .text r.relation),
    ("cardinality", .text r.cardinality)]

def Model.toValue (m : Model) : Value :=
  .record [("entities", .record (m.stored.map fun entry => (entry.1, entry.2.toValue))),
    ("relationships", .array (m.relationships.map Relationship.toValue))]

def Model.json (m : Model) : String := Json.render m.toValue

end EntityDiagram
