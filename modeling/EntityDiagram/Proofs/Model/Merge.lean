import EntityDiagram.Proofs.Model.Store

/-! # Merging models

A model is merged into another by registering its entities there, one by one in their order, and
adding its relationships. What it once held and replaced has no part in this, and need not: a model
is settled by the order of its names, by what each name finds and by its relationships, and a later
declaration of a name leaves no more of an earlier one than its place. So two documents that are
joined by a line feed are read as the merge of what either is read as.
-/

namespace EntityDiagram

open Text

/-! ## What settles a model -/

/-- Distinct names in an order, and what each of them finds, leave no choice. -/
theorem Entity.eq_of_find? {es fs : List Entity} (distinct : (es.map name).Nodup)
    (names : es.map name = fs.map name)
    (found : ∀ n, es.find? (·.name = n) = fs.find? (·.name = n)) : es = fs := by
  induction es generalizing fs with
  | nil => exact (List.map_eq_nil_iff.mp names.symm).symm
  | cons e es ih =>
    cases fs with
    | nil => cases names
    | cons f fs =>
      obtain ⟨head, tail⟩ := List.cons.inj names
      rw [List.map_cons, List.nodup_cons] at distinct
      have first : e = f := by
        have here := found f.name
        rw [List.find?_cons_of_pos (by simpa using head), List.find?_cons_of_pos (by simp)] at here
        exact Option.some.inj here
      have others : es = fs := by
        refine ih distinct.2 tail fun n => ?_
        by_cases same : e.name = n
        · have left : n ∉ es.map name := same ▸ distinct.1
          have right : n ∉ fs.map name := tail ▸ left
          rw [List.find?_eq_none.mpr (by simpa using left),
            List.find?_eq_none.mpr (by simpa using right)]
        · have here := found n
          rwa [← first, List.find?_cons_of_neg (by simpa using same),
            List.find?_cons_of_neg (by simpa using same)] at here
      rw [first, others]

namespace Model

theorem ext_of_found {m n : Model} (names : m.entities.map Entity.name = n.entities.map Entity.name)
    (found : ∀ name, m.entity? name = n.entity? name)
    (relationships : m.relationships = n.relationships) : m = n :=
  Model.ext (Entity.eq_of_find? m.nodup_names names fun name => by
    rw [← entity?_eq_find?, ← entity?_eq_find?, found]) relationships

/-! ## Merging -/

def insertAll (m : Model) (es : List Entity) : Model := es.foldl (fun m e => (m.insert e).2) m

/-- `m` with the entities of `n` registered in their order and its relationships added. -/
def merge (m n : Model) : Model := n.relationships.foldl relate (m.insertAll n.entities)

theorem names_insertAll (m : Model) {es : List Entity} (distinct : (es.map Entity.name).Nodup) :
    (m.insertAll es).entities.map Entity.name = m.entities.map Entity.name ++
      (es.map Entity.name).filter (· ∉ m.entities.map Entity.name) := by
  induction es using List.reverseRecOn with
  | nil => exact (List.append_nil _).symm
  | append_singleton es e ih =>
    rw [List.map_append, List.nodup_append] at distinct
    have fresh : e.name ∉ es.map Entity.name :=
      fun early => distinct.2.2 _ early _ (List.mem_singleton_self _) rfl
    have before := ih distinct.1
    have step : m.insertAll (es ++ [e]) = ((m.insertAll es).insert e).2 := List.foldl_append
    rw [step, names_insert, before, List.map_append, List.filter_append]
    generalize m.entities.map Entity.name = old
    by_cases known : e.name ∈ old
    · simp [known]
    · simp [known, fresh]

theorem entity?_insertAll (m : Model) {es : List Entity} (distinct : (es.map Entity.name).Nodup)
    (name : String) :
    (m.insertAll es).entity? name = (es.find? (·.name = name)).or (m.entity? name) := by
  induction es generalizing m with
  | nil => rfl
  | cons e es ih =>
    rw [List.map_cons, List.nodup_cons] at distinct
    change ((m.insert e).2.insertAll es).entity? name = _
    rw [ih _ distinct.2, entity?_insert]
    by_cases same : e.name = name
    · have absent : name ∉ es.map Entity.name := same ▸ distinct.1
      have later : es.find? (·.name = name) = none := List.find?_eq_none.mpr (by simpa using absent)
      rw [List.find?_cons_of_pos (by simpa using same), later, if_pos same]
      rfl
    · rw [List.find?_cons_of_neg (by simpa using same), if_neg same]

theorem foldl_relate (m : Model) (rs : List Relationship) :
    (rs.foldl relate m).entities = m.entities ∧
      (rs.foldl relate m).relationships = m.relationships ++ rs := by
  induction rs generalizing m with
  | nil => exact ⟨rfl, (List.append_nil _).symm⟩
  | cons r rs ih =>
    obtain ⟨entities, relationships⟩ := ih (m.relate r)
    exact ⟨entities, relationships.trans (List.append_assoc ..)⟩

theorem relationships_insertAll (m : Model) (es : List Entity) :
    (m.insertAll es).relationships = m.relationships := by
  induction es generalizing m with
  | nil => rfl
  | cons e es ih => exact ih (m.insert e).2

theorem relationships_merge (m n : Model) :
    (m.merge n).relationships = m.relationships ++ n.relationships := by
  rw [merge, (foldl_relate _ _).2, relationships_insertAll]

/-- The names of the first model keep their places; the new ones follow. -/
theorem names_merge (m n : Model) :
    (m.merge n).entities.map Entity.name = m.entities.map Entity.name ++
      (n.entities.map Entity.name).filter (· ∉ m.entities.map Entity.name) := by
  rw [merge, (foldl_relate _ _).1, names_insertAll m n.nodup_names]

/-- The second model decides where it has a say. -/
theorem entity?_merge (m n : Model) (name : String) :
    (m.merge n).entity? name = (n.entity? name).or (m.entity? name) := by
  rw [entity?_eq_find?, merge, (foldl_relate _ _).1, ← entity?_eq_find?,
    entity?_insertAll m n.nodup_names, ← entity?_eq_find?]

theorem merge_assoc (l m n : Model) : (l.merge m).merge n = l.merge (m.merge n) := by
  refine ext_of_found ?_ (fun name => ?_) ?_
  · simp only [names_merge, List.filter_append, List.filter_filter, List.append_assoc]
    generalize l.entities.map Entity.name = first
    generalize m.entities.map Entity.name = second
    congr 2
    refine List.filter_congr fun name _ => ?_
    by_cases known : name ∈ first <;> simp [known]
  · simp only [entity?_merge, Option.or_assoc]
  · simp only [relationships_merge, List.append_assoc]

theorem empty_merge (m : Model) : Model.empty.merge m = m := by
  refine ext_of_found ?_ (fun name => ?_) ?_
  · rw [names_merge]
    simp [empty, entities]
  · rw [entity?_merge]
    exact Option.or_none
  · exact relationships_merge .empty m

theorem merge_empty (m : Model) : m.merge .empty = m := by
  rfl

/-- Where an entity stands after a merge, and what is listed there. -/
theorem entities_merge (m n : Model) :
    (m.merge n).entities = m.entities.map (fun e => (n.entity? e.name).getD e) ++
      n.entities.filter fun e => (m.entity? e.name).isNone := by
  have kept : ∀ e : Entity, ((n.entity? e.name).getD e).name = e.name := by
    intro e
    cases found : n.entity? e.name with
    | none => rfl
    | some f => exact (entity?_eq_some_iff.mp found).2
  have names : (m.entities.map fun e => (n.entity? e.name).getD e).map Entity.name =
      m.entities.map Entity.name := by
    rw [List.map_map]
    exact List.map_congr_left fun e _ => kept e
  refine Entity.eq_of_find? (m.merge n).nodup_names ?_ fun name => ?_
  · rw [names_merge, List.map_append, names, List.filter_map]
    congr 2
    refine List.filter_congr fun e _ => ?_
    rw [Bool.eq_iff_iff, Function.comp_apply, decide_eq_true_eq, ← entity?_eq_none_iff,
      Option.isNone_iff_eq_none]
  · have same : (fun f : Entity => decide (f.name = name)) ∘
        (fun e => (n.entity? e.name).getD e) = fun e => decide (e.name = name) := by
      funext e
      rw [Function.comp_apply, kept]
    rw [← entity?_eq_find?, entity?_merge, List.find?_append, List.find?_map, List.find?_filter,
      same, ← entity?_eq_find?]
    cases old : m.entity? name with
    | none =>
      have unaltered : (fun e : Entity => decide ((m.entity? e.name).isNone = true ∧
          decide (e.name = name) = true)) = fun e => decide (e.name = name) := by
        funext e
        by_cases named : e.name = name <;> simp [named, old]
      rw [unaltered, Option.or_none, ← entity?_eq_find?]
      rfl
    | some e =>
      rw [Option.map_some, (entity?_eq_some_iff.mp old).2]
      cases n.entity? name <;> rfl

/-! ## Merges of declarations -/

theorem merge_relate (m n : Model) (r : Relationship) : m.merge (n.relate r) = (m.merge n).relate r := by
  rw [merge]
  exact List.foldl_append

theorem merge_insert (m n : Model) (e : Entity) :
    m.merge (n.insert e).2 = ((m.merge n).insert e).2 := by
  refine ext_of_found ?_ (fun name => ?_) ?_
  · rw [names_merge, names_insert, names_insert, names_merge]
    generalize m.entities.map Entity.name = old
    generalize n.entities.map Entity.name = given
    by_cases known : e.name ∈ old <;> by_cases named : e.name ∈ given <;> simp [known, named]
  · rw [entity?_merge, entity?_insert, entity?_insert, entity?_merge]
    by_cases same : e.name = name
    · rw [if_pos same, if_pos same]
      rfl
    · rw [if_neg same, if_neg same]
  · rw [relationships_merge]
    exact (relationships_merge m n).symm

/-- Replaying what a model still holds gives what replaying all its declarations gives. -/
theorem merge_build (ds es : List Declaration) :
    (build ds).merge (build es) = build (ds ++ es) := by
  induction es using List.reverseRecOn with
  | nil => rw [List.append_nil]; exact merge_empty (build ds)
  | append_singleton es d ih =>
    rw [build_append, ← List.append_assoc, build_append, ← ih]
    cases d with
    | entity e => exact merge_insert (build ds) (build es) e
    | relationship r => exact merge_relate (build ds) (build es) r

end Model

/-! ## Joined documents -/

namespace Document

/-- The piece behind a final line feed is no line, and would declare nothing. -/
theorem declarations_splitAt (text : String) :
    (splitAt '\n' text.toList).filterMap (fun line => (lineOf line).declaration?) =
      declarations text := by
  rw [declarations, lines]
  split
  · next before reversed =>
    rw [← List.reverse_reverse (splitAt '\n' text.toList), reversed, List.reverse_cons,
      List.filterMap_append]
    exact List.append_nil _
  · rfl

theorem declarations_joined (t u : String) :
    declarations (t ++ "\n" ++ u) = declarations t ++ declarations u := by
  have joined : (t ++ "\n" ++ u).toList = t.toList ++ '\n' :: u.toList := by
    rw [String.toList_append, String.toList_append, List.append_assoc]
    rfl
  rw [declarations, joined, lines_append, List.filterMap_append, declarations_splitAt]
  rfl

/-- Two texts with a line feed between them are read as the merge of their models: the entities of
the first keep their places and those that only the second declares follow, the second decides what
is listed under a name it declares, and its relationships come last. Merging is associative, and
the empty model changes nothing. -/
theorem parse_joined :
    (∀ t u, (parse (t ++ "\n" ++ u)).value = (parse t).value.merge (parse u).value) ∧
      (∀ m n : Model,
        (m.merge n).entities = m.entities.map (fun e => (n.entity? e.name).getD e) ++
            n.entities.filter (fun e => (m.entity? e.name).isNone) ∧
          (m.merge n).relationships = m.relationships ++ n.relationships) ∧
      (∀ l m n : Model, (l.merge m).merge n = l.merge (m.merge n)) ∧
      ∀ m : Model, Model.empty.merge m = m ∧ m.merge .empty = m := by
  refine ⟨fun t u => ?_, fun m n => ⟨m.entities_merge n, m.relationships_merge n⟩, Model.merge_assoc,
    fun m => ⟨m.empty_merge, m.merge_empty⟩⟩
  rw [Model.parse_value_eq_build, Model.parse_value_eq_build, Model.parse_value_eq_build,
    Model.merge_build, declarations_joined]

end Document

end EntityDiagram
