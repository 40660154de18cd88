import EntityDiagram.Model.Json
import EntityDiagram.Proofs.Json.Printing
import EntityDiagram.Proofs.Model.Equality

/-! # What the text of a model says

The text of a model is read as the value it was made of, and that value has everything in it that
the model has: no two attributes, entities, relationships or models share one. So models with one
text are the same, down to the order of their entities. The keys of the model are the keys of an
object; since the model has no key twice, neither does the object.
-/

namespace EntityDiagram

open Function (Injective)

/-! ## Values and what they are made of -/

namespace Value

theorem text_injective : Injective text := by
  intro s t same
  rw [text, text, string.injEq, Option.some.injEq] at same
  exact String.toList_injective same

theorem record_injective : Injective record := by
  have named : Injective fun member : String × Value => (some member.1.toList, member.2) := by
    intro member other same
    obtain ⟨keys, values⟩ := Prod.mk.inj same
    exact Prod.ext (String.toList_injective (Option.some.inj keys)) values
  intro first second same
  exact List.map_injective_iff.mpr named (table.inj same)

end Value

theorem Attribute.toValue_injective : Injective Attribute.toValue := by
  rintro ⟨name, primary, foreign⟩ ⟨name', primary', foreign'⟩ same
  have fields := Value.record_injective same
  simp only [List.cons.injEq, Prod.mk.injEq, Value.bool.injEq, true_and, and_true] at fields
  obtain ⟨names, rfl, rfl⟩ := fields
  rw [Value.text_injective names]

theorem Entity.toValue_injective : Injective Entity.toValue := by
  rintro ⟨name, attributes⟩ ⟨name', attributes'⟩ same
  have fields := Value.record_injective same
  simp only [List.cons.injEq, Prod.mk.injEq, Value.array.injEq, true_and, and_true] at fields
  obtain ⟨names, lists⟩ := fields
  rw [Value.text_injective names, List.map_injective_iff.mpr Attribute.toValue_injective lists]

theorem Relationship.toValue_injective : Injective Relationship.toValue := by
  rintro ⟨source, target, relation, cardinality⟩ ⟨source', target', relation', cardinality'⟩ same
  have fields := Value.record_injective same
  simp only [List.cons.injEq, Prod.mk.injEq, true_and, and_true] at fields
  obtain ⟨sources, targets, relations, cardinalities⟩ := fields
  rw [Value.text_injective sources, Value.text_injective targets,
    Value.text_injective relations, Value.text_injective cardinalities]

namespace Model

theorem eq_of_toValue {m n : Model} (same : m.toValue = n.toValue) :
    m.entities = n.entities ∧ m.relationships = n.relationships := by
  have member : Injective fun entry : String × Entity => (entry.1, entry.2.toValue) := by
    intro first second pairs
    obtain ⟨keys, values⟩ := Prod.mk.inj pairs
    exact Prod.ext keys (Entity.toValue_injective values)
  have fields := Value.record_injective same
  simp only [List.cons.injEq, Prod.mk.injEq, Value.array.injEq, true_and, and_true] at fields
  obtain ⟨members, relationships⟩ := fields
  have stored := List.map_injective_iff.mpr member (Value.record_injective members)
  exact ⟨congrArg (List.map Prod.snd) stored,
    List.map_injective_iff.mpr Relationship.toValue_injective relationships⟩

end Model

/-! ## What is read -/

theorem Attribute.plain_toValue (a : Attribute) : Json.Plain a.toValue := by
  refine .record fun m member => ?_
  simp only [List.mem_cons, List.not_mem_nil, or_false] at member
  rcases member with rfl | rfl | rfl
  · exact .string _
  · exact .bool _
  · exact .bool _

theorem Entity.plain_toValue (e : Entity) : Json.Plain e.toValue := by
  refine .record fun m member => ?_
  simp only [List.mem_cons, List.not_mem_nil, or_false] at member
  rcases member with rfl | rfl
  · exact .string _
  · refine .array fun v listed => ?_
    obtain ⟨a, -, rfl⟩ := List.mem_map.mp listed
    exact a.plain_toValue

theorem Relationship.plain_toValue (r : Relationship) : Json.Plain r.toValue := by
  refine .record fun m member => ?_
  simp only [List.mem_cons, List.not_mem_nil, or_false] at member
  rcases member with rfl | rfl | rfl | rfl <;> exact .string _

namespace Model

variable {m n : Model}

theorem plain_toValue (m : Model) : Json.Plain m.toValue := by
  refine .record fun v member => ?_
  simp only [List.mem_cons, List.not_mem_nil, or_false] at member
  rcases member with rfl | rfl
  · refine .record fun pair listed => ?_
    obtain ⟨entry, -, rfl⟩ := List.mem_map.mp listed
    exact entry.2.plain_toValue
  · refine .array fun v listed => ?_
    obtain ⟨r, -, rfl⟩ := List.mem_map.mp listed
    exact r.plain_toValue

theorem read?_json (m : Model) : Json.read? m.json = some m.toValue :=
  Json.read?_render m.plain_toValue

theorem json_eq_iff :
    m.json = n.json ↔ m.entities = n.entities ∧ m.relationships = n.relationships := by
  constructor
  · intro same
    have read := read?_json m
    rw [same, read?_json n] at read
    exact eq_of_toValue (Option.some.inj read).symm
  · rintro ⟨entities, relationships⟩
    rw [Model.ext entities relationships]

/-- The members of the object of entities. -/
def entityMembers (m : Model) : List (Option (List Char) × Value) :=
  m.stored.map fun entry => (some entry.1.toList, entry.2.toValue)

theorem toValue_eq (m : Model) :
    m.toValue = .table [(some "entities".toList, .table m.entityMembers),
      (some "relationships".toList, .array (m.relationships.map Relationship.toValue))] := by
  rw [entityMembers, toValue, Value.record, Value.record, List.map_map]
  rfl

theorem keys_entityMembers (m : Model) :
    m.entityMembers.map Prod.fst = (m.stored.map Prod.fst).map (some ·.toList) := by
  rw [entityMembers, List.map_map, List.map_map]
  rfl

theorem nodup_keys (m : Model) : (m.entityMembers.map Prod.fst).Nodup := by
  rw [keys_entityMembers]
  exact m.distinct.map fun s t same => String.toList_injective (Option.some.inj same)

/-- Two texts of models are the same exactly if the models have the same entities in one order and
the same relationships in one order, each with all that it has, and then the models are equal.
However often a name is declared, the object of entities has it as a key once, at the place of its
first declaration, and the value under a key has the same name. -/
theorem json_faithful :
    (∀ m n : Model,
      (m.json = n.json ↔ m.entities = n.entities ∧ m.relationships = n.relationships) ∧
        (m.json = n.json → m.agrees n = true)) ∧
    ∀ ds, ∃ members relationships,
      Json.read? (build ds).json = some (.table [(some "entities".toList, .table members),
        (some "relationships".toList, .array relationships)]) ∧
      members.map Prod.fst =
        ((Declaration.entities ds).map Entity.name).eraseDups.map (some ·.toList) ∧
      (members.map Prod.fst).Nodup ∧
      ∀ member ∈ members, ∃ name attributes, member = (some name.toList,
        .record [("name", .text name), ("attributes", .array attributes)]) := by
  refine ⟨fun m n => ⟨json_eq_iff, fun same => ?_⟩, fun ds => ?_⟩
  · obtain ⟨entities, relationships⟩ := json_eq_iff.mp same
    rw [Model.ext entities relationships]
    exact agrees_refl n
  · refine ⟨(build ds).entityMembers, _, (read?_json _).trans (congrArg some (toValue_eq _)), ?_,
      nodup_keys _, fun member listed => ?_⟩
    · rw [keys_entityMembers, keys_eq, names_build]
    · obtain ⟨entry, kept, rfl⟩ := List.mem_map.mp listed
      rw [(build ds).keyed entry kept]
      exact ⟨entry.2.name, entry.2.attributes.map Attribute.toValue, rfl⟩

/-- A name with a quote and a backslash that is declared twice has one member, at its first place;
the text is that of the model in which it was declared like that from the start. -/
theorem json_faithful_redeclared :
    let first : Entity := { name := "a\"\\", attributes := [{ name := "x" }] }
    let last : Entity := { name := "a\"\\", attributes := [{ name := "id", primary := true }] }
    let other : Entity := { name := "b" }
    let m := build [.entity first, .entity other, .entity last]
    let n := build [.entity last, .entity other]
    m.json = n.json ∧ m.agrees n = true := by
  intro first last other m n
  obtain ⟨same, agree⟩ := json_faithful.1 m n
  have equal : m.json = n.json := same.mpr ⟨by decide, by decide⟩
  exact ⟨equal, agree equal⟩

end Model

end EntityDiagram
