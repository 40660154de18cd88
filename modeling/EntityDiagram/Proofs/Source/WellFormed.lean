import EntityDiagram.Generator.Extract
import EntityDiagram.Proofs.Source.RoundTrip

/-! # What a parsed model looks like

Any text at all is read into a model that can be written: words where the grammar asks for words,
attribute names without stars, commas and white space at their ends, cardinalities that are not
empty. A line holds no line feed, so no name on it does. Each declaration is well formed on its
own, and a registration adds a well-formed declaration to a well-formed model. Conversely a model
that can be written is what its own text is read as, so these models are all that reading gives.
-/

namespace EntityDiagram

open Text

/-- The model can be written, and what it keeps under a name bears that name. -/
structure Model.WellFormed (m : Model) : Prop extends writable : m.Writable where
  bears : ∀ name e, m.entity? name = some e → e.name = name

/-! ## Declarations -/

namespace Line

/-- Stars go first and white space after them, so blanks that a star hid go as well. -/
theorem attribute?_writable {item : List Char} {a : Attribute} (comma : ',' ∉ item)
    (feed : '\n' ∉ item) (read : attribute? item = some a) : a.Writable := by
  have kept : ∀ c ∈ trim (item.filter (· ≠ '*')), c ∈ item ∧ c ≠ '*' := by
    intro c inside
    simpa using mem_of_mem_trim inside
  have trimmed := trim_trimmed (item.filter (· ≠ '*'))
  rw [attribute?] at read
  cases found : trim (item.filter (· ≠ '*')) with
  | nil =>
    rw [found] at read
    cases read
  | cons first others =>
    rw [found] at read kept trimmed
    cases read
    constructor
    · rw [String.toList_ofList]
      exact List.cons_ne_nil first others
    · rw [String.toList_ofList]
      exact fun inside => comma (kept _ inside).1
    · rw [String.toList_ofList]
      exact fun inside => (kept _ inside).2 rfl
    · rw [String.toList_ofList]
      exact fun inside => feed (kept _ inside).1
    · rwa [String.toList_ofList]
    · rfl

example : attribute? "* \u00a0a b *".toList = some { name := "a b", primary := true } := by decide

theorem attributes_writable {body : List Char} (feed : '\n' ∉ body) :
    ∀ a ∈ attributes body, a.Writable := by
  intro a listed
  obtain ⟨item, piece, read⟩ := List.mem_filterMap.mp listed
  have whole : '\n' ∉ item := fun inside => feed (mem_of_mem_splitAt piece _ inside).1
  exact attribute?_writable (not_mem_of_mem_splitAt piece) whole read

theorem Enclosed.mem_text {opening closing c : Char} {piece : Enclosed opening closing}
    (inside : c ∈ piece.inside) : c ∈ piece.text := by
  rw [Enclosed.text, List.mem_append, List.mem_cons, List.mem_append]
  exact .inr (.inr (.inl inside))

theorem EntityForm.entity_writable (form : EntityForm) (feed : '\n' ∉ form.text) :
    form.entity.Writable := by
  have list : '\n' ∉ form.list.inside := by
    intro inside
    exact feed (List.mem_append_right _ (List.mem_append_right _
      (List.mem_append_right _ (Enclosed.mem_text inside))))
  refine ⟨?_, attributes_writable list⟩
  rw [EntityForm.entity, String.toList_ofList]
  exact form.name_word

/-- An empty pair of parentheses gives the default, so no cardinality is empty. -/
theorem Cardinality.writable {tail : List Char} {given : String} (feed : '\n' ∉ tail)
    (stands : Cardinality tail given) : given.toList ≠ [] ∧ '\n' ∉ given.toList := by
  cases stands with
  | given piece written nonempty =>
    rw [String.toList_ofList]
    exact ⟨nonempty, fun inside => feed (written ▸ Enclosed.mem_text inside)⟩
  | implied absent => decide

theorem RelationshipForm.declares_writable {form : RelationshipForm} {r : Relationship}
    (feed : '\n' ∉ form.text) (declares : form.Declares r) : r.Writable := by
  have tail : '\n' ∉ form.tail := by
    intro inside
    have fromArrow : '\n' ∈ form.fromArrow :=
      List.mem_append_right _ (List.mem_append_right _ (List.mem_append_right _
        (List.mem_append_right _ inside)))
    have fromLine : '\n' ∈ form.fromLine :=
      List.mem_append_right _ (List.mem_append_right _ (List.mem_append_right _
        (List.mem_append_right _ fromArrow)))
    exact feed (List.mem_append_right _ (List.mem_append_right _ (List.mem_append_right _ fromLine)))
  obtain ⟨source, relation, target, cardinality⟩ := declares
  obtain ⟨given, whole⟩ := cardinality.writable tail
  constructor
  · rw [source, String.toList_ofList]
    exact form.source_word
  · rw [relation, String.toList_ofList]
    exact form.relation_word
  · rw [target, String.toList_ofList]
    exact form.target_word
  · exact given
  · exact whole

/-- What a line declares can be written. -/
def Writable : Line → Prop
  | .entity e => e.Writable
  | .relationship r => r.Writable
  | .unmatched => True

theorem classify_writable {line : List Char} (feed : '\n' ∉ line) : (classify line).Writable := by
  cases read : classify line with
  | entity e =>
    obtain ⟨form, written, rfl⟩ := classify_eq_entity_iff.mp read
    exact form.entity_writable (written ▸ feed)
  | relationship r =>
    obtain ⟨form, written, declared⟩ := classify_eq_relationship_iff.mp read
    exact RelationshipForm.declares_writable (written ▸ feed) (form.declares_iff.mpr declared)
  | unmatched => trivial

end Line

/-! ## Models -/

theorem Model.declare_writable {m : Model} {line : Line} (stored : m.Writable)
    (declared : line.Writable) : (m.declare line).Writable := by
  cases line with
  | entity e =>
    refine ⟨fun f member => ?_, stored.relationships⟩
    rcases mem_entities_insert member with rfl | there
    · exact declared
    · exact stored.entities f there
  | relationship r =>
    refine ⟨stored.entities, fun s member => ?_⟩
    rcases List.mem_append.mp member with there | here
    · exact stored.relationships s there
    · exact List.mem_singleton.mp here ▸ declared
  | unmatched => exact stored

theorem Model.empty_writable : Model.empty.Writable :=
  ⟨fun _ member => absurd member List.not_mem_nil, fun _ member => absurd member List.not_mem_nil⟩

theorem Model.Writable.wellFormed {m : Model} (writable : m.Writable) : m.WellFormed :=
  { writable with
    bears := fun _ _ found => (entity?_eq_some_iff.mp found).2 }

theorem Document.parse_writable (text : String) : (parse text).value.Writable := by
  rw [parse_value]
  refine List.foldlRecOn _ Model.declare Model.empty_writable fun m stored line member => ?_
  obtain ⟨raw, piece, rfl⟩ := List.mem_map.mp member
  have feed : '\n' ∉ trim raw := fun inside => not_mem_of_mem_lines piece (mem_of_mem_trim inside)
  exact Model.declare_writable stored (Line.classify_writable feed)

/-! ## Texts of writable models -/

/-- The entities first, then the relationships, each on a line that ends in a line feed. -/
def Model.text (m : Model) : String :=
  String.ofList ((m.entities.map Entity.print ++ m.relationships.map Relationship.print).flatMap
    (· ++ ['\n']))

theorem Listing.of_relationships (rs : List Relationship) :
    Listing [] rs (rs.map Relationship.print) := by
  induction rs with
  | nil => exact .nil
  | cons r rest ih => exact .relationship r .full ih

theorem Listing.of_entities (es : List Entity) (rs : List Relationship) :
    Listing es rs (es.map Entity.print ++ rs.map Relationship.print) := by
  induction es with
  | nil => exact .of_relationships rs
  | cons e rest ih => exact .entity e ih

theorem TextOf.flatMap (lines : List (List Char)) : TextOf lines (lines.flatMap (· ++ ['\n'])) := by
  induction lines with
  | nil => exact .nil
  | cons line rest ih =>
    rw [List.flatMap_cons, List.append_assoc]
    exact .line line ih

theorem Model.parse_text {m : Model} (writable : m.Writable) :
    (Document.parse m.text).value = m := by
  have listing := Listing.of_entities m.entities m.relationships
  have textOf := TextOf.flatMap (m.entities.map Entity.print ++ m.relationships.map Relationship.print)
  have lines := textOf.lines_eq (listing.reads writable.entities writable.relationships)
  have declared := listing.declares writable.entities writable.relationships .empty m.nodup_names
  rw [Document.parse_value, text, String.toList_ofList, lines]
  exact Model.ext declared.1 declared.2

/-- Every text is read into a well-formed model, and so is what any generator makes of a text with
the answers that any client brings it; and a model is well formed exactly if there is a text that is
read as it. -/
theorem Model.wellFormed_iff_parsed :
    (∀ text, (Document.parse text).value.WellFormed) ∧
      (∀ generate text client,
        ((Generator.extract generate text).run client).value.value.WellFormed) ∧
      ∀ m : Model, m.WellFormed ↔ ∃ text, (Document.parse text).value = m := by
  have parsed : ∀ text, (Document.parse text).value.WellFormed :=
    fun text => (Document.parse_writable text).wellFormed
  refine ⟨parsed, fun generate text client => ?_, fun m => ⟨fun formed => ?_, ?_⟩⟩
  · rw [Generator.run_extract]
    cases ((generate Generator.instructions text).run client).value with
    | ok output => exact parsed output
    | error e => exact Model.empty_writable.wellFormed
  · exact ⟨m.text, Model.parse_text formed.writable⟩
  · rintro ⟨text, rfl⟩
    exact parsed text

end EntityDiagram
