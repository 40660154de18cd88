/-! # Entities, relationships and the model that holds them

A model keeps its entities under their names, at most one under each, in the order in which the
names came; and all its relationships in the order they were added. A relationship may name
entities the model does not have.
-/

namespace EntityDiagram

structure Attribute where
  name : String
  primary : Bool := false
  foreign : Bool := false
  deriving DecidableEq, Repr

structure Entity where
  name : String
  attributes : List Attribute := []
  deriving DecidableEq, Repr

namespace Entity

def primaryKeys (e : Entity) : List Attribute := e.attributes.filter (·.primary)

end Entity

/-- What a relationship's cardinality is when none is given. -/
def defaultCardinality : String := "1:1"

structure Relationship where
  source : String
  target : String
  relation : String
  cardinality : String := defaultCardinality
  deriving DecidableEq, Repr

/-! ## Values under keys -/

namespace Keyed

variable {α : Type} {key : String} {value : α} {entries : List (String × α)}

/-- Puts `value` under `key`: in the place of the value that is there, or at the end when there is
none. The first part of the result is the value that had the place. -/
def put (key : String) (value : α) : List (String × α) → Option α × List (String × α)
  | [] => (none, [(key, value)])
  | entry :: rest =>
    if entry.1 = key then (some entry.2, (entry.1, value) :: rest)
    else
      let (replaced, rest) := put key value rest
      (replaced, entry :: rest)

def find? (key : String) (entries : List (String × α)) : Option α :=
  (entries.find? (·.1 = key)).map Prod.snd

theorem keys_put (key : String) (value : α) (entries : List (String × α)) :
    (put key value entries).2.map Prod.fst =
      if key ∈ entries.map Prod.fst then entries.map Prod.fst
      else entries.map Prod.fst ++ [key] := by
  induction entries with
  | nil => rfl
  | cons entry rest ih =>
    by_cases same : entry.1 = key
    · rw [put, if_pos same, if_pos (by simp [same])]
      rfl
    · rw [put, if_neg same, List.map_cons, ih, List.map_cons]
      by_cases known : key ∈ rest.map Prod.fst
      · rw [if_pos known, if_pos (List.mem_cons_of_mem _ known)]
      · rw [if_neg known, if_neg (by simp [known, Ne.symm same])]
        rfl

theorem nodup_keys_put (distinct : (entries.map Prod.fst).Nodup) :
    ((put key value entries).2.map Prod.fst).Nodup := by
  rw [keys_put]
  split
  · exact distinct
  · next fresh =>
    rw [List.nodup_append]
    refine ⟨distinct, by simp, fun early member last single => ?_⟩
    rintro rfl
    exact fresh (List.mem_singleton.mp single ▸ member)

/-- What is put comes to the ones that were there, or takes the place of one. -/
theorem mem_put {entry : String × α} (member : entry ∈ (put key value entries).2) :
    entry = (key, value) ∨ entry ∈ entries := by
  induction entries with
  | nil => exact .inl (List.mem_singleton.mp member)
  | cons first rest ih =>
    by_cases same : first.1 = key
    · rw [put, if_pos same, same, List.mem_cons] at member
      exact member.imp_right (List.mem_cons_of_mem first)
    · rw [put, if_neg same] at member
      rcases List.mem_cons.mp member with here | later
      · exact .inr (here ▸ List.mem_cons_self ..)
      · exact (ih later).imp_right (List.mem_cons_of_mem first)

end Keyed

/-! ## The model -/

structure Model where
  stored : List (String × Entity) := []
  relationships : List Relationship := []
  distinct : (stored.map Prod.fst).Nodup := by simp
  keyed : ∀ entry ∈ stored, entry.1 = entry.2.name := by simp

namespace Model

def empty : Model := {}

instance : Inhabited Model := ⟨empty⟩

def entities (m : Model) : List Entity := m.stored.map Prod.snd

def entity? (m : Model) (name : String) : Option Entity := Keyed.find? name m.stored

/-- Registers `e` under its name; the first part of the result is the entity that it replaces. -/
def insert (m : Model) (e : Entity) : Option Entity × Model :=
  ((Keyed.put e.name e m.stored).1,
    { m with
      stored := (Keyed.put e.name e m.stored).2
      distinct := Keyed.nodup_keys_put m.distinct
      keyed := fun entry member => by
        rcases Keyed.mem_put member with rfl | before
        · rfl
        · exact m.keyed entry before })

def relate (m : Model) (r : Relationship) : Model :=
  { m with relationships := m.relationships ++ [r] }

def isEmpty (m : Model) : Bool := m.stored.isEmpty && m.relationships.isEmpty

/-- The same entities under the same names in any order, and the same relationships in the same
order. -/
def agrees (m n : Model) : Bool :=
  m.stored.length == n.stored.length &&
    m.stored.all (fun entry => n.entity? entry.1 == some entry.2) &&
    m.relationships == n.relationships

end Model

end EntityDiagram
