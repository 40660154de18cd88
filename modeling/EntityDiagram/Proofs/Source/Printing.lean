import EntityDiagram.Proofs.Source.Classify
import EntityDiagram.Proofs.Source.Reading

/-! # Printing a model

A writable model is one whose names and cardinalities fit into declarations. It is printed as one
line per declaration, entities and relationships in their order but mixed at will, and is read back
as it was. The delimiters need no escapes: a list ends at the last bracket of its line and a
cardinality at the last parenthesis, so either may hold any bracket itself.
-/

namespace EntityDiagram

open Text

/-! ## What can be written -/

/-- The name fits between the commas of a list and keeps its stars for itself. -/
structure Attribute.Writable (a : Attribute) : Prop where
  nonempty : a.name.toList ≠ []
  comma : ',' ∉ a.name.toList
  star : '*' ∉ a.name.toList
  feed : '\n' ∉ a.name.toList
  trimmed : Trimmed a.name.toList
  foreign : a.foreign = false

structure Entity.Writable (e : Entity) : Prop where
  name : IsWord e.name.toList
  attributes : ∀ a ∈ e.attributes, a.Writable

structure Relationship.Writable (r : Relationship) : Prop where
  source : IsWord r.source.toList
  relation : IsWord r.relation.toList
  target : IsWord r.target.toList
  given : r.cardinality.toList ≠ []
  feed : '\n' ∉ r.cardinality.toList

structure Model.Writable (m : Model) : Prop where
  entities : ∀ e ∈ m.entities, e.Writable
  relationships : ∀ r ∈ m.relationships, r.Writable

instance (a : Attribute) : Decidable a.Writable :=
  decidable_of_iff (a.name.toList ≠ [] ∧ ',' ∉ a.name.toList ∧ '*' ∉ a.name.toList ∧
      '\n' ∉ a.name.toList ∧ Trimmed a.name.toList ∧ a.foreign = false)
    ⟨fun ⟨nonempty, comma, star, feed, trimmed, foreign⟩ =>
      ⟨nonempty, comma, star, feed, trimmed, foreign⟩,
      fun ⟨nonempty, comma, star, feed, trimmed, foreign⟩ =>
      ⟨nonempty, comma, star, feed, trimmed, foreign⟩⟩

instance (e : Entity) : Decidable e.Writable :=
  decidable_of_iff (IsWord e.name.toList ∧ ∀ a ∈ e.attributes, a.Writable)
    ⟨fun ⟨name, attributes⟩ => ⟨name, attributes⟩, fun ⟨name, attributes⟩ => ⟨name, attributes⟩⟩

instance (r : Relationship) : Decidable r.Writable :=
  decidable_of_iff (IsWord r.source.toList ∧ IsWord r.relation.toList ∧ IsWord r.target.toList ∧
      r.cardinality.toList ≠ [] ∧ '\n' ∉ r.cardinality.toList)
    ⟨fun ⟨source, relation, target, given, feed⟩ => ⟨source, relation, target, given, feed⟩,
      fun ⟨source, relation, target, given, feed⟩ => ⟨source, relation, target, given, feed⟩⟩

instance (m : Model) : Decidable m.Writable :=
  decidable_of_iff ((∀ e ∈ m.entities, e.Writable) ∧ ∀ r ∈ m.relationships, r.Writable)
    ⟨fun ⟨entities, relationships⟩ => ⟨entities, relationships⟩,
      fun ⟨entities, relationships⟩ => ⟨entities, relationships⟩⟩

/-! ## How it is written -/

def Attribute.print (a : Attribute) : List Char :=
  a.name.toList ++ if a.primary then ['*'] else []

def Entity.printList (e : Entity) : List Char :=
  List.intercalate ", ".toList (e.attributes.map Attribute.print)

def Entity.print (e : Entity) : List Char :=
  "Entity: ".toList ++ e.name.toList ++ " [".toList ++ e.printList ++ "]".toList

/-- The declaration without its cardinality. -/
def Relationship.printEnds (r : Relationship) : List Char :=
  "Relationship: ".toList ++ r.source.toList ++ " -- ".toList ++ r.relation.toList ++
    " --> ".toList ++ r.target.toList

def Relationship.print (r : Relationship) : List Char :=
  r.printEnds ++ " (".toList ++ r.cardinality.toList ++ ")".toList

/-- The default cardinality may be left out. -/
inductive Relationship.Prints (r : Relationship) : List Char → Prop
  | full : Prints r r.print
  | brief (usual : r.cardinality = defaultCardinality) : Prints r r.printEnds

/-- The lines that declare entities and relationships, each kind in its order. -/
inductive Listing : List Entity → List Relationship → List (List Char) → Prop
  | nil : Listing [] [] []
  | entity (e : Entity) {es : List Entity} {rs : List Relationship} {lines : List (List Char)}
      (rest : Listing es rs lines) : Listing (e :: es) rs (e.print :: lines)
  | relationship (r : Relationship) {line : List Char} (printed : r.Prints line)
      {es : List Entity} {rs : List Relationship} {lines : List (List Char)}
      (rest : Listing es rs lines) : Listing es (r :: rs) (line :: lines)

/-- The text of some lines; a line feed may end the last one. -/
inductive TextOf : List (List Char) → List Char → Prop
  | nil : TextOf [] []
  | last (line : List Char) : TextOf [line] line
  | line (line : List Char) {lines : List (List Char)} {text : List Char}
      (rest : TextOf lines text) : TextOf (line :: lines) (line ++ '\n' :: text)

def Model.Prints (m : Model) (text : String) : Prop :=
  ∃ lines, Listing m.entities m.relationships lines ∧ TextOf lines text.toList

end EntityDiagram
