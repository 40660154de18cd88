import EntityDiagram.Proofs.Text.Cut
import EntityDiagram.Proofs.Text.Run
import EntityDiagram.Source.Line

/-! # The forms of a declaration

A line is taken apart into named pieces: the blanks between the tokens, the words, the list or the
cardinality, and what is ignored behind them. The pieces say what makes a line a declaration
without any reader; `entity?` and `relationship?` find them whenever they are there, and there is
at most one way to find them.
-/

namespace EntityDiagram.Line

open Text

/-- Text between `opening`, after blanks, and a `closing` that does not occur again. -/
@[ext] structure Enclosed (opening closing : Char) where
  gap : List Char
  inside : List Char
  rest : List Char
  blanks : Blanks gap
  free : closing ∉ rest

/-- The pieces of a line that declares an entity. -/
@[ext] structure EntityForm where
  margin : List Char
  name : List Char
  list : Enclosed '[' ']'
  margin_blanks : Blanks margin
  name_word : IsWord name

/-- The pieces of a line that declares a relationship. -/
@[ext] structure RelationshipForm where
  margin : List Char
  source : List Char
  beforeLine : List Char
  afterLine : List Char
  relation : List Char
  beforeArrow : List Char
  afterArrow : List Char
  target : List Char
  tail : List Char
  margin_blanks : Blanks margin
  source_word : IsWord source
  beforeLine_blanks : Blanks beforeLine
  afterLine_blanks : Blanks afterLine
  relation_word : IsWord relation
  beforeArrow_blanks : Blanks beforeArrow
  afterArrow_blanks : Blanks afterArrow
  target_word : IsWord target
  tail_stops : Stops isWordChar tail

def Enclosed.text {opening closing : Char} (piece : Enclosed opening closing) : List Char :=
  piece.gap ++ opening :: (piece.inside ++ closing :: piece.rest)

def EntityForm.text (form : EntityForm) : List Char :=
  "Entity:".toList ++ (form.margin ++ (form.name ++ form.list.text))

def EntityForm.entity (form : EntityForm) : Entity :=
  { name := String.ofList form.name, attributes := attributes form.list.inside }

namespace RelationshipForm

def fromArrow (form : RelationshipForm) : List Char :=
  form.beforeArrow ++ ("-->".toList ++ (form.afterArrow ++ (form.target ++ form.tail)))

def fromLine (form : RelationshipForm) : List Char :=
  form.beforeLine ++ ("--".toList ++ (form.afterLine ++ (form.relation ++ form.fromArrow)))

def text (form : RelationshipForm) : List Char :=
  "Relationship:".toList ++ (form.margin ++ (form.source ++ form.fromLine))

end RelationshipForm

/-- The cardinality that stands behind the target: what parentheses enclose, unless that is
nothing, or the default. -/
inductive Cardinality (tail : List Char) : String → Prop
  | given (piece : Enclosed '(' ')') (written : piece.text = tail) (nonempty : piece.inside ≠ []) :
      Cardinality tail (String.ofList piece.inside)
  | implied (absent : ∀ piece : Enclosed '(' ')', piece.text = tail → piece.inside = []) :
      Cardinality tail "1:1"

/-- `r` is what the pieces say. -/
structure RelationshipForm.Declares (form : RelationshipForm) (r : Relationship) : Prop where
  source : r.source = String.ofList form.source
  relation : r.relation = String.ofList form.relation
  target : r.target = String.ofList form.target
  cardinality : Cardinality form.tail r.cardinality

/-! ## Tokens after blanks -/

theorem token?_append (token : String) (rest : List Char) :
    token? token (token.toList ++ rest) = some rest :=
  dropStart?_append token.toList rest

theorem token?_skipBlanks_append (token : String) (solid : Stops isBlank token.toList)
    (nonempty : token.toList ≠ []) {gap : List Char} (blanks : Blanks gap) (rest : List Char) :
    token? token (skipBlanks (gap ++ (token.toList ++ rest))) = some rest := by
  rw [skipBlanks_append blanks (solid.append nonempty rest), token?_append]

theorem token?_skipBlanks_eq_some_iff {token : String} (solid : Stops isBlank token.toList)
    (nonempty : token.toList ≠ []) {cs rest : List Char} :
    token? token (skipBlanks cs) = some rest ↔
      ∃ gap, Blanks gap ∧ cs = gap ++ (token.toList ++ rest) := by
  constructor
  · intro found
    obtain ⟨gap, blanks, -, written⟩ := exists_blanks cs
    exact ⟨gap, blanks, dropStart?_eq_some_iff.mp found ▸ written⟩
  · rintro ⟨gap, blanks, rfl⟩
    exact token?_skipBlanks_append token solid nonempty blanks rest

theorem word?_skipBlanks_append {gap word rest : List Char} (blanks : Blanks gap)
    (isWord : IsWord word) (stop : Stops isWordChar rest) :
    word? (skipBlanks (gap ++ (word ++ rest))) = some (word, rest) := by
  rw [skipBlanks_append blanks (isWord.stops_blank rest)]
  exact word?_eq_some_iff.mpr ⟨rfl, isWord, stop⟩

theorem word?_skipBlanks_eq_some_iff {cs word rest : List Char} :
    word? (skipBlanks cs) = some (word, rest) ↔
      ∃ gap, Blanks gap ∧ IsWord word ∧ Stops isWordChar rest ∧ cs = gap ++ (word ++ rest) := by
  constructor
  · intro read
    obtain ⟨found, isWord, stop⟩ := word?_eq_some_iff.mp read
    obtain ⟨gap, blanks, -, written⟩ := exists_blanks cs
    exact ⟨gap, blanks, isWord, stop, found ▸ written⟩
  · rintro ⟨gap, blanks, isWord, stop, rfl⟩
    exact word?_skipBlanks_append blanks isWord stop

/-! ## Enclosed text -/

section Enclosed

variable {opening closing : Char}

theorem Enclosed.stops_word (piece : Enclosed opening closing)
    (mark : isWordChar opening = false) : Stops isWordChar piece.text :=
  piece.blanks.stops_word (stops_cons mark)

theorem enclosed?_text (solid : isBlank opening = false) (piece : Enclosed opening closing) :
    enclosed? opening closing piece.text = some piece.inside := by
  rw [enclosed?, Enclosed.text, skipBlanks_append piece.blanks (stops_cons solid)]
  simp only [↓reduceIte, cutLast?_append piece.inside piece.free, Option.map_some]

theorem enclosed?_eq_some_iff (solid : isBlank opening = false) {cs inside : List Char} :
    enclosed? opening closing cs = some inside ↔
      ∃ piece : Enclosed opening closing, piece.text = cs ∧ piece.inside = inside := by
  constructor
  · intro found
    obtain ⟨gap, blanks, -, written⟩ := exists_blanks cs
    rw [enclosed?] at found
    cases begun : skipBlanks cs with
    | nil => rw [begun] at found; cases found
    | cons c rest =>
      rw [begun] at found written
      simp only at found
      split at found
      · next same =>
        obtain ⟨⟨before, after⟩, cut, rfl⟩ := Option.map_eq_some_iff.mp found
        obtain ⟨split, free⟩ := cutLast?_eq_some_iff.mp cut
        exact ⟨⟨gap, before, after, blanks, free⟩, by rw [written, same, split]; rfl, rfl⟩
      · cases found
  · rintro ⟨piece, rfl, rfl⟩
    exact enclosed?_text solid piece

/-- A text is enclosed in one way only. -/
theorem Enclosed.text_injective (solid : isBlank opening = false)
    {piece other : Enclosed opening closing} (same : piece.text = other.text) : piece = other := by
  obtain ⟨gap, enclosed⟩ := run_unique same piece.blanks (stops_cons solid) other.blanks
    (stops_cons solid)
  obtain ⟨inside, rest⟩ := last_unique (List.cons.inj enclosed).2 piece.free other.free
  exact Enclosed.ext gap inside rest

end Enclosed

end EntityDiagram.Line
