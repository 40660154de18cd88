import EntityDiagram.Proofs.Source.Classify

/-! # White space between the tokens

A declaration may have any number of spaces and tabs between its tokens, or none, and says the same
with each choice. Other white space does not count as blank: a line that has some between two tokens
declares nothing, and where it stands before the parenthesis the cardinality behind it is not read.
White space ends a word as a blank does, so the gaps of such a line can be told from its tokens in
one way only.
-/

namespace EntityDiagram.Line

open Text

/-! ## Tokens and gaps -/

/-- The places between two tokens of a declaration. -/
inductive Gap where
  | afterKeyword
  | beforeList
  | beforeLine
  | afterLine
  | beforeArrow
  | afterArrow
  | beforeCardinality
  deriving DecidableEq, Repr

/-- What stands in each gap. -/
abbrev Spacing := Gap → List Char

def Spacing.single : Spacing := fun _ => [' ']

/-- A declaration without its gaps. -/
inductive Tokens where
  | entity (name body : List Char)
  | relationship (source relation target : List Char) (given : Option (List Char))
  deriving DecidableEq, Repr

/-- The cardinality in its parentheses, if one is given. -/
def Spacing.tail (spacing : Spacing) : Option (List Char) → List Char
  | none => []
  | some given => spacing .beforeCardinality ++ '(' :: (given ++ [')'])

/-- The cardinality that is read: what is given, if only blanks stand before it. -/
def Spacing.cardinality (spacing : Spacing) (given : Option (List Char)) : String :=
  if Blanks (spacing .beforeCardinality) then (given.map String.ofList).getD defaultCardinality
  else defaultCardinality

namespace Tokens

def line (spacing : Spacing) : Tokens → List Char
  | entity name body =>
    "Entity:".toList ++ (spacing .afterKeyword ++ (name ++ (spacing .beforeList ++
      '[' :: (body ++ [']']))))
  | relationship source relation target given =>
    "Relationship:".toList ++ (spacing .afterKeyword ++ (source ++ (spacing .beforeLine ++
      ("--".toList ++ (spacing .afterLine ++ (relation ++ (spacing .beforeArrow ++
        ("-->".toList ++ (spacing .afterArrow ++ (target ++ spacing.tail given))))))))))

/-- Words are words, and a cardinality that is given is not empty. -/
def Spelled : Tokens → Prop
  | entity name _ => IsWord name
  | relationship source relation target given =>
    IsWord source ∧ IsWord relation ∧ IsWord target ∧ given ≠ some []

/-- The gaps that a line must have blank to be read at all. -/
def gaps : Tokens → List Gap
  | entity .. => [.afterKeyword, .beforeList]
  | relationship .. => [.afterKeyword, .beforeLine, .afterLine, .beforeArrow, .afterArrow]

def Spaced (spacing : Spacing) (tokens : Tokens) : Prop :=
  ∀ gap ∈ tokens.gaps, Blanks (spacing gap)

instance (spacing : Spacing) (tokens : Tokens) : Decidable (tokens.Spaced spacing) :=
  inferInstanceAs (Decidable (∀ gap ∈ tokens.gaps, Blanks (spacing gap)))

/-- The gap before the cardinality is blank too, or nothing but the default can be lost there. -/
def KeepsCardinality (spacing : Spacing) : Tokens → Prop
  | entity .. => True
  | relationship _ _ _ given => Blanks (spacing .beforeCardinality) ∨
    (given.map String.ofList).getD defaultCardinality = defaultCardinality

def declaration (spacing : Spacing) : Tokens → Line
  | entity name body => .entity { name := String.ofList name, attributes := attributes body }
  | relationship source relation target given => .relationship {
      source := String.ofList source
      target := String.ofList target
      relation := String.ofList relation
      cardinality := spacing.cardinality given }

end Tokens

section Reading

variable {spacing : Spacing} {name body source relation target : List Char}
  {given : Option (List Char)}

/-! ## Whatever form such a line has, its gaps are the ones that were written -/

theorem spaced_of_entityForm (white : ∀ gap, White (spacing gap)) (word : IsWord name)
    {form : EntityForm} (written : form.text = (Tokens.entity name body).line spacing) :
    (Tokens.entity name body).Spaced spacing := by
  have bracket {cs : List Char} : Stops isWhiteSpace ('[' :: cs) := stops_cons (by decide)
  obtain ⟨margin, named⟩ := run_unique (List.append_cancel_left written)
    form.margin_blanks.white (form.name_word.stops_space _) (white _) (word.stops_space _)
  obtain ⟨-, listed⟩ := run_unique named form.name_word.chars (form.list.stops_word (by decide))
    word.chars ((white _).stops_word (stops_cons (by decide)))
  obtain ⟨gap, -⟩ := run_unique listed form.list.blanks.white bracket (white _) bracket
  intro place member
  simp only [Tokens.gaps, List.mem_cons, List.not_mem_nil, or_false] at member
  rcases member with rfl | rfl
  · exact margin ▸ form.margin_blanks
  · exact gap ▸ form.list.blanks

theorem spaced_of_relationshipForm (white : ∀ gap, White (spacing gap)) (source_word : IsWord source)
    (relation_word : IsWord relation) (target_word : IsWord target) {form : RelationshipForm}
    (written : form.text = (Tokens.relationship source relation target given).line spacing) :
    (Tokens.relationship source relation target given).Spaced spacing := by
  have dash {cs : List Char} : Stops isWhiteSpace ("--".toList ++ cs) :=
    Stops.append (by decide) (by decide) cs
  have arrow {cs : List Char} : Stops isWhiteSpace ("-->".toList ++ cs) :=
    Stops.append (by decide) (by decide) cs
  obtain ⟨margin, sourced⟩ := run_unique (List.append_cancel_left written)
    form.margin_blanks.white (form.source_word.stops_space _) (white _) (source_word.stops_space _)
  obtain ⟨-, lined⟩ := run_unique sourced form.source_word.chars form.fromLine_stops
    source_word.chars ((white _).stops_word (Stops.append (by decide) (by decide) _))
  obtain ⟨beforeLine, dashed⟩ := run_unique lined form.beforeLine_blanks.white dash (white _) dash
  obtain ⟨afterLine, related⟩ := run_unique (List.append_cancel_left dashed)
    form.afterLine_blanks.white (form.relation_word.stops_space _) (white _)
    (relation_word.stops_space _)
  obtain ⟨-, pointed⟩ := run_unique related form.relation_word.chars form.fromArrow_stops
    relation_word.chars ((white _).stops_word (Stops.append (by decide) (by decide) _))
  obtain ⟨beforeArrow, arrowed⟩ := run_unique pointed form.beforeArrow_blanks.white arrow (white _)
    arrow
  obtain ⟨afterArrow, -⟩ := run_unique (List.append_cancel_left arrowed)
    form.afterArrow_blanks.white (form.target_word.stops_space _) (white _)
    (target_word.stops_space _)
  intro place member
  simp only [Tokens.gaps, List.mem_cons, List.not_mem_nil, or_false] at member
  rcases member with rfl | rfl | rfl | rfl | rfl
  · exact margin ▸ form.margin_blanks
  · exact beforeLine ▸ form.beforeLine_blanks
  · exact afterLine ▸ form.afterLine_blanks
  · exact beforeArrow ▸ form.beforeArrow_blanks
  · exact afterArrow ▸ form.afterArrow_blanks

/-! ## What is read -/

theorem classify_entity_line (white : ∀ gap, White (spacing gap)) (word : IsWord name)
    (body : List Char) :
    classify ((Tokens.entity name body).line spacing) =
      if (Tokens.entity name body).Spaced spacing then (Tokens.entity name body).declaration spacing
      else .unmatched := by
  split
  · next spaced =>
    have blanks : ∀ gap ∈ [Gap.afterKeyword, .beforeList], Blanks (spacing gap) := spaced
    let form : EntityForm := {
      margin := spacing .afterKeyword
      name := name
      list := ⟨spacing .beforeList, body, [], blanks _ (by decide), List.not_mem_nil⟩
      margin_blanks := blanks _ (by decide)
      name_word := word }
    exact classify_eq_entity_iff.mpr ⟨form, rfl, rfl⟩
  · next other =>
    refine classify_eq_unmatched_iff.mpr ⟨fun form written => ?_, fun form written => ?_⟩
    · exact other (spaced_of_entityForm white word written)
    · cases (List.cons.inj written).1

theorem cardinality_tail (white : White (spacing .beforeCardinality)) (nonempty : given ≠ some []) :
    cardinality (spacing.tail given) = spacing.cardinality given := by
  rw [cardinality_eq_iff, Spacing.cardinality]
  cases given with
  | none =>
    have absent : Cardinality [] defaultCardinality :=
      .implied fun piece written => by cases (List.append_eq_nil_iff.mp written).2
    split
    · exact absent
    · exact absent
  | some inside =>
    split
    · next blanks =>
      let piece : Enclosed '(' ')' :=
        ⟨spacing .beforeCardinality, inside, [], blanks, List.not_mem_nil⟩
      exact .given piece rfl fun empty => nonempty (congrArg some empty)
    · next other =>
      have parenthesis {cs : List Char} : Stops isWhiteSpace ('(' :: cs) := stops_cons (by decide)
      refine .implied fun piece written => absurd ?_ other
      obtain ⟨gap, -⟩ := run_unique written piece.blanks.white parenthesis white parenthesis
      exact gap ▸ piece.blanks

theorem classify_relationship_line (white : ∀ gap, White (spacing gap))
    (source_word : IsWord source) (relation_word : IsWord relation) (target_word : IsWord target)
    (nonempty : given ≠ some []) :
    classify ((Tokens.relationship source relation target given).line spacing) =
      if (Tokens.relationship source relation target given).Spaced spacing then
        (Tokens.relationship source relation target given).declaration spacing
      else .unmatched := by
  have tail_stops : Stops isWordChar (spacing.tail given) := by
    cases given with
    | none => exact stops_nil
    | some inside => exact (white _).stops_word (stops_cons (by decide))
  split
  · next spaced =>
    have blanks : ∀ gap ∈ [Gap.afterKeyword, .beforeLine, .afterLine, .beforeArrow, .afterArrow],
      Blanks (spacing gap) := spaced
    let form : RelationshipForm := {
      margin := spacing .afterKeyword
      source := source
      beforeLine := spacing .beforeLine
      afterLine := spacing .afterLine
      relation := relation
      beforeArrow := spacing .beforeArrow
      afterArrow := spacing .afterArrow
      target := target
      tail := spacing.tail given
      margin_blanks := blanks _ (by decide)
      source_word := source_word
      beforeLine_blanks := blanks _ (by decide)
      afterLine_blanks := blanks _ (by decide)
      relation_word := relation_word
      beforeArrow_blanks := blanks _ (by decide)
      afterArrow_blanks := blanks _ (by decide)
      target_word := target_word
      tail_stops := tail_stops }
    refine classify_eq_relationship_iff.mpr ⟨form, rfl, ?_⟩
    rw [RelationshipForm.relationship, cardinality_tail (white _) nonempty]
  · next other =>
    refine classify_eq_unmatched_iff.mpr ⟨fun form written => ?_, fun form written => ?_⟩
    · cases (List.cons.inj written).1
    · exact other (spaced_of_relationshipForm white source_word relation_word target_word written)

theorem classify_line {tokens : Tokens} (white : ∀ gap, White (spacing gap))
    (spelled : tokens.Spelled) :
    classify (tokens.line spacing) =
      if tokens.Spaced spacing then tokens.declaration spacing else .unmatched := by
  cases tokens with
  | entity name body => exact classify_entity_line white spelled body
  | relationship source relation target given =>
    obtain ⟨source_word, relation_word, target_word, nonempty⟩ := spelled
    exact classify_relationship_line white source_word relation_word target_word nonempty

theorem declaration_eq_single_iff {tokens : Tokens} :
    tokens.declaration spacing = tokens.declaration .single ↔ tokens.KeepsCardinality spacing := by
  cases tokens with
  | entity name body => exact iff_of_true rfl trivial
  | relationship source relation target given =>
    have usual : Blanks (Spacing.single .beforeCardinality) := by decide
    simp only [Tokens.declaration, Tokens.KeepsCardinality, Spacing.cardinality, if_pos usual]
    by_cases blanks : Blanks (spacing .beforeCardinality)
    · simp [blanks]
    · simp [blanks, eq_comm]

end Reading

/-- However many spaces and tabs stand in the gaps of a declaration, it is read as with single
spaces. With other white space in a gap it is not read, except that in front of a cardinality such
white space leaves the default in its place. -/
theorem classify_spacing {tokens : Tokens} {spacing : Spacing}
    (white : ∀ gap, White (spacing gap)) (spelled : tokens.Spelled) :
    (classify (tokens.line spacing) =
        if tokens.Spaced spacing then tokens.declaration spacing else .unmatched) ∧
      (classify (tokens.line spacing) = classify (tokens.line .single) ↔
        tokens.Spaced spacing ∧ tokens.KeepsCardinality spacing) := by
  have single (gap : Gap) : Blanks (Spacing.single gap) := by
    change Blanks [' ']
    decide
  have single_spaced : tokens.Spaced .single := fun gap _ => single gap
  have spaced := classify_line white spelled
  refine ⟨spaced, ?_⟩
  rw [spaced, classify_line (fun gap => (single gap).white) spelled, if_pos single_spaced]
  by_cases blanks : tokens.Spaced spacing
  · rw [if_pos blanks, declaration_eq_single_iff]
    exact (and_iff_right blanks).symm
  · rw [if_neg blanks]
    refine iff_of_false (fun same => ?_) fun kept => blanks kept.1
    cases tokens <;> cases same

/-- Tabs, spaces and nothing at all, and a cardinality behind a no-break space. -/
theorem classify_spacing_tabs :
    let spacing : Spacing := fun
      | .beforeLine => ['\t']
      | .beforeArrow => [' ', ' ']
      | .beforeCardinality => ['\u00a0']
      | _ => []
    let tokens : Tokens := .relationship ['A'] ['r'] ['B'] (some ['1', ':', 'N'])
    (∀ gap, White (spacing gap)) ∧ tokens.Spelled ∧
      classify (tokens.line spacing) =
        .relationship { source := "A", target := "B", relation := "r", cardinality := "1:1" } ∧
      classify (tokens.line spacing) ≠ classify (tokens.line .single) := by
  intro spacing tokens
  have white : ∀ gap, White (spacing gap) := by
    intro gap
    cases gap <;> decide
  have spelled : tokens.Spelled := ⟨by decide, by decide, by decide, by decide⟩
  obtain ⟨read, same⟩ := classify_spacing white spelled
  refine ⟨white, spelled, read, fun equal => ?_⟩
  rcases (same.mp equal).2 with blanks | default
  · exact absurd blanks (by decide)
  · exact absurd default (by decide)

/-- A no-break space is white space, but no declaration may have one between its tokens. -/
theorem no_break_space_unread :
    let spacing : Spacing := fun
      | .afterKeyword => ['\u00a0']
      | _ => [' ']
    let tokens : Tokens := .entity ['A'] ['i', 'd', '*']
    isWhiteSpace '\u00a0' = true ∧ '\u00a0' ≠ '\n' ∧
      classify (tokens.line spacing) = .unmatched ∧
      classify (tokens.line .single) =
        .entity { name := "A", attributes := [{ name := "id", primary := true }] } := by
  decide

end EntityDiagram.Line
