import EntityDiagram.Proofs.Source.Form

/-! # Reading a line finds its form

A line is read as a declaration exactly when it has the form of one. No line has both forms, and
the pieces of a form can be read off its text in one way only, so that what a declaration says is
settled by the line.
-/

namespace EntityDiagram.Line

open Text

/-! ## Entities -/

theorem entity?_text (form : EntityForm) : entity? form.text = some form.entity := by
  have name := word?_skipBlanks_append form.margin_blanks form.name_word
    (form.list.stops_word (by decide))
  have list := enclosed?_text (by decide) form.list
  change entity? ("Entity:".toList ++ _) = _
  rw [entity?, token?_append]
  simp only [Option.bind_eq_bind, Option.bind_some, name, list]
  rfl

theorem entity?_eq_some_iff {line : List Char} {e : Entity} :
    entity? line = some e ↔ ∃ form : EntityForm, form.text = line ∧ form.entity = e := by
  constructor
  · intro read
    simp only [entity?, bind, Option.bind_eq_some_iff] at read
    obtain ⟨afterToken, token, ⟨name, afterName⟩, named, body, enclosed, result⟩ := read
    obtain ⟨margin, margin_blanks, name_word, -, rfl⟩ := word?_skipBlanks_eq_some_iff.mp named
    obtain ⟨list, rfl, rfl⟩ := (enclosed?_eq_some_iff (by decide)).mp enclosed
    cases result
    exact ⟨⟨margin, name, list, margin_blanks, name_word⟩, (dropStart?_eq_some_iff.mp token).symm, rfl⟩
  · rintro ⟨form, rfl, rfl⟩
    exact entity?_text form

theorem EntityForm.text_injective {form other : EntityForm} (same : form.text = other.text) :
    form = other := by
  obtain ⟨margin, named⟩ := run_unique (List.append_cancel_left same) form.margin_blanks
    (form.name_word.stops_blank _) other.margin_blanks (other.name_word.stops_blank _)
  obtain ⟨name, listed⟩ := run_unique named form.name_word.chars
    (form.list.stops_word (by decide)) other.name_word.chars (other.list.stops_word (by decide))
  exact EntityForm.ext margin name (Enclosed.text_injective (by decide) listed)

/-! ## Relationships -/

theorem cardinality_eq_iff {tail : List Char} {given : String} :
    cardinality tail = given ↔ Cardinality tail given := by
  constructor
  · rintro rfl
    rw [cardinality]
    split
    · next c rest enclosed =>
      obtain ⟨piece, written, inside⟩ := (enclosed?_eq_some_iff (by decide)).mp enclosed
      rw [← inside]
      exact .given piece written (by rw [inside]; exact List.cons_ne_nil c rest)
    · next empty =>
      refine .implied fun piece written => ?_
      have enclosed := enclosed?_text (by decide) piece
      rw [written] at enclosed
      cases inside : piece.inside with
      | nil => rfl
      | cons c rest => exact absurd (inside ▸ enclosed) (empty c rest)
  · intro given
    cases given with
    | given piece written nonempty =>
      have enclosed := enclosed?_text (by decide) piece
      rw [written] at enclosed
      rw [cardinality, enclosed]
      split
      · next same => rw [Option.some.inj same]
      · next empty =>
        obtain ⟨c, rest, inside⟩ := List.exists_cons_of_ne_nil nonempty
        exact absurd (congrArg some inside) (empty c rest)
    | implied absent =>
      rw [cardinality]
      split
      · next c rest enclosed =>
        obtain ⟨piece, written, inside⟩ := (enclosed?_eq_some_iff (by decide)).mp enclosed
        exact absurd (inside.symm.trans (absent piece written)) (List.cons_ne_nil c rest)
      · rfl

namespace RelationshipForm

variable (form : RelationshipForm)

/-- What the pieces say, with the cardinality as it is read. -/
def relationship : Relationship where
  source := String.ofList form.source
  target := String.ofList form.target
  relation := String.ofList form.relation
  cardinality := Line.cardinality form.tail

theorem declares_iff {r : Relationship} : form.Declares r ↔ form.relationship = r := by
  constructor
  · rintro ⟨source, relation, target, cardinality⟩
    rw [relationship, cardinality_eq_iff.mpr cardinality, ← source, ← relation, ← target]
  · rintro rfl
    exact ⟨rfl, rfl, rfl, cardinality_eq_iff.mp rfl⟩

theorem fromArrow_stops : Stops isWordChar form.fromArrow :=
  form.beforeArrow_blanks.stops_word (Stops.append (by decide) (by decide) _)

theorem fromLine_stops : Stops isWordChar form.fromLine :=
  form.beforeLine_blanks.stops_word (Stops.append (by decide) (by decide) _)

end RelationshipForm

theorem relationship?_text (form : RelationshipForm) :
    relationship? form.text = some form.relationship := by
  have source := word?_skipBlanks_append form.margin_blanks form.source_word form.fromLine_stops
  have relation := word?_skipBlanks_append form.afterLine_blanks form.relation_word
    form.fromArrow_stops
  have target := word?_skipBlanks_append form.afterArrow_blanks form.target_word form.tail_stops
  change relationship? ("Relationship:".toList ++ _) = _
  rw [relationship?, token?_append]
  simp only [Option.bind_eq_bind, Option.bind_some, source]
  rw [RelationshipForm.fromLine,
    token?_skipBlanks_append "--" (by decide) (by decide) form.beforeLine_blanks]
  simp only [Option.bind_some, relation]
  rw [RelationshipForm.fromArrow,
    token?_skipBlanks_append "-->" (by decide) (by decide) form.beforeArrow_blanks]
  simp only [Option.bind_some, target]
  rfl

theorem relationship?_eq_some_iff {line : List Char} {r : Relationship} :
    relationship? line = some r ↔
      ∃ form : RelationshipForm, form.text = line ∧ form.relationship = r := by
  constructor
  · intro read
    simp only [relationship?, bind, Option.bind_eq_some_iff] at read
    obtain ⟨afterToken, token, ⟨source, afterSource⟩, sourced, afterDashes, dashes,
      ⟨relation, afterRelation⟩, related, afterPoint, point, ⟨target, tail⟩, targeted, result⟩ := read
    obtain ⟨margin, margin_blanks, source_word, -, rfl⟩ := word?_skipBlanks_eq_some_iff.mp sourced
    obtain ⟨beforeLine, beforeLine_blanks, rfl⟩ :=
      (token?_skipBlanks_eq_some_iff (by decide) (by decide)).mp dashes
    obtain ⟨afterLine, afterLine_blanks, relation_word, -, rfl⟩ :=
      word?_skipBlanks_eq_some_iff.mp related
    obtain ⟨beforeArrow, beforeArrow_blanks, rfl⟩ :=
      (token?_skipBlanks_eq_some_iff (by decide) (by decide)).mp point
    obtain ⟨afterArrow, afterArrow_blanks, target_word, tail_stops, rfl⟩ :=
      word?_skipBlanks_eq_some_iff.mp targeted
    cases result
    exact ⟨⟨margin, source, beforeLine, afterLine, relation, beforeArrow, afterArrow, target, tail,
      margin_blanks, source_word, beforeLine_blanks, afterLine_blanks, relation_word,
      beforeArrow_blanks, afterArrow_blanks, target_word, tail_stops⟩,
      (dropStart?_eq_some_iff.mp token).symm, rfl⟩
  · rintro ⟨form, rfl, rfl⟩
    exact relationship?_text form

theorem RelationshipForm.text_injective {form other : RelationshipForm}
    (same : form.text = other.text) : form = other := by
  obtain ⟨margin, sourced⟩ := run_unique (List.append_cancel_left same) form.margin_blanks
    (form.source_word.stops_blank _) other.margin_blanks (other.source_word.stops_blank _)
  obtain ⟨source, lined⟩ := run_unique sourced form.source_word.chars form.fromLine_stops
    other.source_word.chars other.fromLine_stops
  obtain ⟨beforeLine, dashed⟩ := run_unique lined form.beforeLine_blanks
    (Stops.append (by decide) (by decide) _) other.beforeLine_blanks
    (Stops.append (by decide) (by decide) _)
  obtain ⟨afterLine, related⟩ := run_unique (List.append_cancel_left dashed) form.afterLine_blanks
    (form.relation_word.stops_blank _) other.afterLine_blanks (other.relation_word.stops_blank _)
  obtain ⟨relation, pointed⟩ := run_unique related form.relation_word.chars form.fromArrow_stops
    other.relation_word.chars other.fromArrow_stops
  obtain ⟨beforeArrow, arrowed⟩ := run_unique pointed form.beforeArrow_blanks
    (Stops.append (by decide) (by decide) _) other.beforeArrow_blanks
    (Stops.append (by decide) (by decide) _)
  obtain ⟨afterArrow, targeted⟩ := run_unique (List.append_cancel_left arrowed)
    form.afterArrow_blanks (form.target_word.stops_blank _) other.afterArrow_blanks
    (other.target_word.stops_blank _)
  obtain ⟨target, tail⟩ := run_unique targeted form.target_word.chars form.tail_stops
    other.target_word.chars other.tail_stops
  exact RelationshipForm.ext margin source beforeLine afterLine relation beforeArrow afterArrow
    target tail

/-! ## Lines -/

/-- The keyword tells the two kinds of declarations apart. -/
theorem EntityForm.text_ne (form : EntityForm) (other : RelationshipForm) :
    form.text ≠ other.text := by
  intro same
  have first : 'E' = 'R' := (List.cons.inj same).1
  cases first

theorem classify_eq_entity_iff {line : List Char} {e : Entity} :
    classify line = .entity e ↔ ∃ form : EntityForm, form.text = line ∧ form.entity = e := by
  rw [← entity?_eq_some_iff, classify]
  cases entity? line with
  | some found => simp
  | none => cases relationship? line <;> simp

theorem classify_eq_relationship_iff {line : List Char} {r : Relationship} :
    classify line = .relationship r ↔
      ∃ form : RelationshipForm, form.text = line ∧ form.relationship = r := by
  rw [← relationship?_eq_some_iff, classify]
  cases read : entity? line with
  | some found =>
    refine ⟨fun other => (by cases other), fun related => ?_⟩
    obtain ⟨form, written, -⟩ := entity?_eq_some_iff.mp read
    obtain ⟨other, rewritten, -⟩ := relationship?_eq_some_iff.mp related
    exact absurd (written.trans rewritten.symm) (form.text_ne other)
  | none => cases relationship? line <;> simp

theorem classify_eq_unmatched_iff {line : List Char} :
    classify line = .unmatched ↔
      (∀ form : EntityForm, form.text ≠ line) ∧ ∀ form : RelationshipForm, form.text ≠ line := by
  constructor
  · intro unmatched
    refine ⟨fun form written => ?_, fun form written => ?_⟩
    · cases unmatched.symm.trans (classify_eq_entity_iff.mpr ⟨form, written, rfl⟩)
    · cases unmatched.symm.trans (classify_eq_relationship_iff.mpr ⟨form, written, rfl⟩)
  · rintro ⟨entities, relationships⟩
    cases read : classify line with
    | entity e =>
      obtain ⟨form, written, -⟩ := classify_eq_entity_iff.mp read
      exact absurd written (entities form)
    | relationship r =>
      obtain ⟨form, written, -⟩ := classify_eq_relationship_iff.mp read
      exact absurd written (relationships form)
    | unmatched => rfl

/-- A line is an entity, a relationship or neither exactly by the form it has, and it has at most
one form, with one way to tell its pieces. -/
theorem classify_iff_form (line : List Char) :
    (∀ e, classify line = .entity e ↔ ∃ form : EntityForm, form.text = line ∧ form.entity = e) ∧
      (∀ r, classify line = .relationship r ↔
        ∃ form : RelationshipForm, form.text = line ∧ form.Declares r) ∧
      (classify line = .unmatched ↔
        (∀ form : EntityForm, form.text ≠ line) ∧ ∀ form : RelationshipForm, form.text ≠ line) ∧
      Subsingleton { form : EntityForm // form.text = line } ∧
      Subsingleton { form : RelationshipForm // form.text = line } ∧
      (∀ tail, Subsingleton { piece : Enclosed '(' ')' // piece.text = tail }) ∧
      ¬ ((∃ form : EntityForm, form.text = line) ∧ ∃ form : RelationshipForm, form.text = line) := by
  refine ⟨fun e => classify_eq_entity_iff, fun r => ?_, classify_eq_unmatched_iff, ⟨?_⟩, ⟨?_⟩,
    fun tail => ⟨?_⟩, ?_⟩
  · simp only [RelationshipForm.declares_iff]
    exact classify_eq_relationship_iff
  · rintro ⟨form, written⟩ ⟨other, rewritten⟩
    exact Subtype.ext (EntityForm.text_injective (written.trans rewritten.symm))
  · rintro ⟨form, written⟩ ⟨other, rewritten⟩
    exact Subtype.ext (RelationshipForm.text_injective (written.trans rewritten.symm))
  · rintro ⟨piece, written⟩ ⟨other, rewritten⟩
    exact Subtype.ext (Enclosed.text_injective (by decide) (written.trans rewritten.symm))
  · rintro ⟨⟨form, written⟩, other, rewritten⟩
    exact form.text_ne other (written.trans rewritten.symm)

example : classify "Relationship:A--is-->B(1 (or 2)) or 3".toList =
    .relationship { source := "A", target := "B", relation := "is", cardinality := "1 (or 2)" } := by
  decide

end EntityDiagram.Line
