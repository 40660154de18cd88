import EntityDiagram.Model.Basic

/-! # Entities under their names

A model keeps every entity under its own name. So its keys are the names of its entities, what is
under a key is the entity of that name, and the entities in their order settle all that is kept. A
registration decides what is under one key and leaves the others as they were.
-/

namespace EntityDiagram

namespace Keyed

variable {α : Type} {key : String} {value : α} {entries : List (String × α)}

theorem find?_cons (key : String) (entry : String × α) (rest : List (String × α)) :
    find? key (entry :: rest) = if entry.1 = key then some entry.2 else find? key rest := by
  rw [find?, List.find?_cons]
  by_cases same : entry.1 = key
  · simp only [same, decide_true, if_true, Option.map_some]
  · simp only [same, decide_false, if_false, find?]

theorem put_fst (key : String) (value : α) (entries : List (String × α)) :
    (put key value entries).1 = find? key entries := by
  induction entries with
  | nil => rfl
  | cons entry rest ih =>
    rw [put, find?_cons]
    by_cases same : entry.1 = key
    · rw [if_pos same, if_pos same]
    · rw [if_neg same, if_neg same]
      exact ih

/-- What is put decides its key and no other. -/
theorem find?_put (key : String) (value : α) (entries : List (String × α)) (other : String) :
    find? other (put key value entries).2 =
      if key = other then some value else find? other entries := by
  induction entries with
  | nil => exact find?_cons other (key, value) []
  | cons entry rest ih =>
    by_cases here : entry.1 = key
    · rw [put, if_pos here, find?_cons, find?_cons, here]
      split <;> rfl
    · rw [put, if_neg here, find?_cons, find?_cons, ih]
      by_cases same : entry.1 = other
      · have changed : key ≠ other := fun taken => here (same.trans taken.symm)
        rw [if_pos same, if_neg changed, if_pos same]
      · rw [if_neg same, if_neg same]

/-- What is put under a new key comes last. -/
theorem put_of_not_mem (fresh : key ∉ entries.map Prod.fst) :
    put key value entries = (none, entries ++ [(key, value)]) := by
  induction entries with
  | nil => rfl
  | cons entry rest ih =>
    rw [List.map_cons, List.mem_cons, not_or] at fresh
    rw [put, if_neg (Ne.symm fresh.1), ih fresh.2]
    rfl

end Keyed

namespace Model

variable {m n : Model} {e f : Entity} {name : String}

theorem stored_eq (m : Model) : m.stored = m.entities.map fun e => (e.name, e) := by
  rw [entities, List.map_map]
  refine (List.map_id' m.stored).symm.trans (List.map_congr_left fun entry member => ?_)
  exact Prod.ext (m.keyed entry member) rfl

theorem keys_eq (m : Model) : m.stored.map Prod.fst = m.entities.map Entity.name := by
  rw [stored_eq, List.map_map]
  rfl

theorem nodup_names (m : Model) : (m.entities.map Entity.name).Nodup := m.keys_eq ▸ m.distinct

theorem ext (entities : m.entities = n.entities)
    (relationships : m.relationships = n.relationships) : m = n := by
  have stored : m.stored = n.stored := by rw [stored_eq, stored_eq, entities]
  cases m
  cases n
  cases stored
  cases relationships
  rfl

theorem entity?_eq_find? (m : Model) (name : String) :
    m.entity? name = m.entities.find? (·.name = name) := by
  rw [entity?, Keyed.find?, stored_eq, List.find?_map, Option.map_map]
  exact Option.map_id' ..

/-- An entity is listed exactly where its name finds it. -/
theorem mem_entities_iff : e ∈ m.entities ↔ m.entity? e.name = some e := by
  constructor
  · intro member
    rw [entity?_eq_find?, List.find?_eq_some_iff_append]
    obtain ⟨before, after, split⟩ := List.append_of_mem member
    have distinct := m.nodup_names
    rw [split, List.map_append, List.map_cons, List.nodup_append] at distinct
    refine ⟨decide_eq_true rfl, before, after, split, fun earlier early => ?_⟩
    have other := distinct.2.2 _ (List.mem_map_of_mem early) _ (List.mem_cons_self ..)
    simpa using other
  · rw [entity?_eq_find?]
    exact List.mem_of_find?_eq_some

theorem entity?_eq_some_iff :
    m.entity? name = some e ↔ e ∈ m.entities ∧ e.name = name := by
  constructor
  · intro found
    rw [entity?_eq_find?] at found
    have named : e.name = name := by simpa using List.find?_some found
    exact ⟨List.mem_of_find?_eq_some found, named⟩
  · rintro ⟨member, rfl⟩
    exact mem_entities_iff.mp member

theorem entity?_eq_none_iff :
    m.entity? name = none ↔ name ∉ m.entities.map Entity.name := by
  rw [entity?_eq_find?, List.find?_eq_none]
  simp

theorem isEmpty_iff : m.isEmpty = true ↔ m.entities = [] ∧ m.relationships = [] := by
  rw [isEmpty, Bool.and_eq_true, List.isEmpty_iff, List.isEmpty_iff, entities, List.map_eq_nil_iff]

/-! ## One registration -/

theorem insert_fst (m : Model) (e : Entity) : (m.insert e).1 = m.entity? e.name :=
  Keyed.put_fst e.name e m.stored

theorem entity?_insert (m : Model) (e : Entity) (name : String) :
    (m.insert e).2.entity? name = if e.name = name then some e else m.entity? name :=
  Keyed.find?_put e.name e m.stored name

theorem names_insert (m : Model) (e : Entity) :
    (m.insert e).2.entities.map Entity.name =
      if e.name ∈ m.entities.map Entity.name then m.entities.map Entity.name
      else m.entities.map Entity.name ++ [e.name] := by
  rw [← keys_eq, ← keys_eq]
  exact Keyed.keys_put e.name e m.stored

theorem mem_entities_insert (member : f ∈ (m.insert e).2.entities) : f = e ∨ f ∈ m.entities := by
  obtain ⟨entry, listed, rfl⟩ := List.mem_map.mp member
  rcases Keyed.mem_put listed with rfl | before
  · exact .inl rfl
  · exact .inr (List.mem_map_of_mem before)

theorem insert_of_not_mem (fresh : e.name ∉ m.entities.map Entity.name) :
    (m.insert e).2.entities = m.entities ++ [e] := by
  rw [← keys_eq] at fresh
  have last : (m.insert e).2.stored = m.stored ++ [(e.name, e)] :=
    congrArg Prod.snd (Keyed.put_of_not_mem fresh)
  rw [entities, last, List.map_append]
  rfl

end Model

end EntityDiagram
