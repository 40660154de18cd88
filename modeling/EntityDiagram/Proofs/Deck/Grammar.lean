import EntityDiagram.Proofs.Text.Run
import EntityDiagram.Text.Ranges

/-! # The grammar of documents

Which texts are documents of XML 1.0, as far as elements with attributes, text and named references
go. There are no comments, instructions, unparsed sections, document types and references by number
here, and one spelling only of what may be spelled in several ways, such as the space in a tag. So
what is a document here is one by the standard. Each document can be read in one way only: the
outline of its elements is settled by its text.
-/

namespace EntityDiagram.Xml

open Text (Stops stops_cons run_unique)

/-! ## Characters and names -/

def characterRanges : List (Nat × Nat) :=
  [(0x9, 0xA), (0xD, 0xD), (0x20, 0xD7FF), (0xE000, 0xFFFD), (0x10000, 0x10FFFF)]

/-- The character may stand in a document. Most control characters may not, however written. -/
def isCharacter (c : Char) : Bool := Text.inRanges characterRanges c.toNat

def nameStartRanges : List (Nat × Nat) :=
  [(0x3A, 0x3A), (0x41, 0x5A), (0x5F, 0x5F), (0x61, 0x7A), (0xC0, 0xD6), (0xD8, 0xF6),
    (0xF8, 0x2FF), (0x370, 0x37D), (0x37F, 0x1FFF), (0x200C, 0x200D), (0x2070, 0x218F),
    (0x2C00, 0x2FEF), (0x3001, 0xD7FF), (0xF900, 0xFDCF), (0xFDF0, 0xFFFD), (0x10000, 0xEFFFF)]

def startsName (c : Char) : Bool := Text.inRanges nameStartRanges c.toNat

/-- What may stand in a name besides what may begin one. -/
def nameRestRanges : List (Nat × Nat) :=
  [(0x2D, 0x2E), (0x30, 0x39), (0xB7, 0xB7), (0x300, 0x36F), (0x203F, 0x2040)]

def isNameCharacter (c : Char) : Bool :=
  startsName c || Text.inRanges nameRestRanges c.toNat

def isName : List Char → Bool
  | [] => false
  | c :: rest => startsName c && rest.all isNameCharacter

/-! ## What elements are made of -/

/-- The references that need no declaration. -/
def entities : List String := ["amp", "lt", "gt", "apos", "quot"]

def IsReference (cs : List Char) : Prop :=
  ∃ name ∈ entities, cs = '&' :: (name.toList ++ [';'])

/-- What may stand between the quotes of an attribute. -/
inductive IsValue : List Char → Prop
  | nil : IsValue []
  | character {c : Char} {rest : List Char} (plain : c ∉ ['<', '&', '"'])
      (behind : IsValue rest) : IsValue (c :: rest)
  | reference {cs rest : List Char} (reference : IsReference cs) (behind : IsValue rest) :
      IsValue (cs ++ rest)

/-- The attributes of a tag, by their names. No name comes twice. -/
inductive IsAttributes : List (List Char) → List Char → Prop
  | nil : IsAttributes [] []
  | cons {name value rest : List Char} {names : List (List Char)} (named : isName name = true)
      (valued : IsValue value) (new : name ∉ names) (behind : IsAttributes names rest) :
      IsAttributes (name :: names) (' ' :: (name ++ '=' :: '"' :: (value ++ '"' :: rest)))

/-- Text between tags and references. -/
structure IsData (cs : List Char) : Prop where
  plain : ∀ c ∈ cs, c ∉ ['<', '&']
  noSectionEnd : ¬ [']', ']', '>'] <:+: cs

inductive Part where
  | element
  | content

/-- The name of each element with what stands between its tags, in the order of the first tags. -/
abbrev Outline := List (List Char × List Char)

/-- The ways to write an element, or what may stand between its tags. -/
inductive Marked : Part → List Char → Outline → Prop
  | single {name attributes : List Char} {names : List (List Char)} (named : isName name = true)
      (attributed : IsAttributes names attributes) :
      Marked .element ('<' :: (name ++ (attributes ++ ['/', '>']))) [(name, [])]
  | paired {name attributes body : List Char} {names : List (List Char)} {inner : Outline}
      (named : isName name = true) (attributed : IsAttributes names attributes)
      (inside : Marked .content body inner) :
      Marked .element
        ('<' :: (name ++ (attributes ++ '>' :: (body ++ '<' :: '/' :: (name ++ ['>'])))))
        ((name, body) :: inner)
  | data {run : List Char} (plain : IsData run) : Marked .content run []
  | child {run cs rest : List Char} {first others : Outline} (plain : IsData run)
      (element : Marked .element cs first) (behind : Marked .content rest others) :
      Marked .content (run ++ (cs ++ rest)) (first ++ others)
  | reference {run cs rest : List Char} {others : Outline} (plain : IsData run)
      (reference : IsReference cs) (behind : Marked .content rest others) :
      Marked .content (run ++ (cs ++ rest)) others

def isSpace (c : Char) : Bool := ['\t', '\n', '\r', ' '].contains c

/-- One element behind a declaration. -/
def Document (cs : List Char) (outline : Outline) : Prop :=
  ∃ gap root, cs =
      "<?xml version=\"1.0\" encoding=\"UTF-8\" standalone=\"yes\"?>".toList ++ (gap ++ root) ∧
    (∀ c ∈ gap, isSpace c = true) ∧ Marked .element root outline

structure WellFormed (cs : List Char) : Prop where
  characters : ∀ c ∈ cs, isCharacter c = true
  document : ∃ outline, Document cs outline

/-! ## Names -/

theorem isName_chars {cs : List Char} (named : isName cs = true) :
    ∀ c ∈ cs, isNameCharacter c = true := by
  cases cs with
  | nil => cases named
  | cons c rest =>
    rw [isName, Bool.and_eq_true, List.all_eq_true] at named
    rw [List.forall_mem_cons, isNameCharacter, named.1]
    exact ⟨rfl, named.2⟩

theorem isCharacter_of_isNameCharacter {c : Char} (inside : isNameCharacter c = true) :
    isCharacter c = true := by
  simp only [isNameCharacter, startsName, nameStartRanges, nameRestRanges, Text.inRanges,
    Bool.or_eq_true, Bool.and_eq_true, decide_eq_true_eq, Bool.false_eq_true, or_false] at inside
  simp only [isCharacter, characterRanges, Text.inRanges, Bool.or_eq_true, Bool.and_eq_true,
    decide_eq_true_eq, Bool.false_eq_true, or_false]
  omega

/-- What follows the attributes of a tag. -/
def EndsTag (cs : List Char) : Prop := ∃ c rest, cs = c :: rest ∧ c ∈ ['/', '>']

theorem endsTag_single {rest : List Char} : EndsTag (['/', '>'] ++ rest) :=
  ⟨'/', '>' :: rest, rfl, by decide⟩

theorem endsTag_paired {rest : List Char} : EndsTag ('>' :: rest) :=
  ⟨'>', rest, rfl, by decide⟩

theorem EndsTag.stops {cs : List Char} (ends : EndsTag cs) : Stops isNameCharacter cs := by
  obtain ⟨c, rest, rfl, last⟩ := ends
  refine stops_cons ?_
  rcases List.mem_cons.mp last with rfl | last
  · decide
  · rw [List.mem_singleton.mp last]
    decide

theorem EndsTag.ne_space {cs rest : List Char} (ends : EndsTag cs) : cs ≠ ' ' :: rest := by
  rintro rfl
  obtain ⟨c, behind, same, last⟩ := ends
  rw [← (List.cons.inj same).1] at last
  exact absurd last (by decide)

/-! ## One reading -/

theorem IsReference.semicolon {cs : List Char} (reference : IsReference cs) :
    ∃ name, cs = '&' :: (name ++ [';']) ∧ ∀ c ∈ name, (c != ';') = true := by
  obtain ⟨name, known, rfl⟩ := reference
  have plain : ∀ entity ∈ entities, entity.toList.all (· != ';') = true := by decide
  exact ⟨name.toList, rfl, List.all_eq_true.mp (plain name known)⟩

theorem IsReference.unique {cs others rest behind : List Char} (reference : IsReference cs)
    (other : IsReference others) (same : cs ++ rest = others ++ behind) :
    cs = others ∧ rest = behind := by
  obtain ⟨name, rfl, plain⟩ := reference.semicolon
  obtain ⟨second, rfl, otherwise⟩ := other.semicolon
  simp only [List.cons_append, List.append_assoc, List.nil_append, List.cons.injEq,
    true_and] at same
  have semicolon : ∀ after : List Char, Stops (· != ';') (';' :: after) := fun _ =>
    stops_cons (by decide)
  obtain ⟨rfl, last⟩ := run_unique same plain (semicolon rest) otherwise (semicolon behind)
  exact ⟨rfl, (List.cons.inj last).2⟩

theorem IsValue.no_quote {value : List Char} (valued : IsValue value) :
    ∀ c ∈ value, (c != '"') = true := by
  induction valued with
  | nil =>
    intro c inside
    cases inside
  | character plain behind ih =>
    rw [List.forall_mem_cons]
    refine ⟨bne_iff_ne.mpr fun quote => plain ?_, ih⟩
    rw [quote]
    decide
  | reference reference behind ih =>
    obtain ⟨name, known, rfl⟩ := reference
    rw [List.forall_mem_append]
    have plain : ∀ entity ∈ entities, ('&' :: (entity.toList ++ [';'])).all (· != '"') = true := by
      decide
    exact ⟨List.all_eq_true.mp (plain name known), ih⟩

theorem IsAttributes.unique {names second : List (List Char)} {cs others rest behind : List Char}
    (attributed : IsAttributes names cs) (otherwise : IsAttributes second others)
    (ends : EndsTag rest) (other_ends : EndsTag behind) (same : cs ++ rest = others ++ behind) :
    cs = others ∧ rest = behind := by
  induction attributed generalizing second others with
  | nil =>
    cases otherwise with
    | nil => exact ⟨rfl, same⟩
    | cons => exact absurd same ends.ne_space
  | @cons name value after names named valued new tail ih =>
    cases otherwise with
    | nil => exact absurd same.symm other_ends.ne_space
    | @cons other_name other_value other_after _ other_named other_valued _ other_tail =>
      simp only [List.cons_append, List.append_assoc, List.cons.injEq, true_and] at same
      have equals : ∀ after : List Char, Stops isNameCharacter ('=' :: after) := fun _ =>
        stops_cons (by decide)
      have quote : ∀ after : List Char, Stops (· != '"') ('"' :: after) := fun _ =>
        stops_cons (by decide)
      obtain ⟨rfl, left⟩ := run_unique same (isName_chars named) (equals _)
        (isName_chars other_named) (equals _)
      simp only [List.cons.injEq, true_and] at left
      obtain ⟨rfl, last⟩ := run_unique left valued.no_quote (quote _) other_valued.no_quote (quote _)
      obtain ⟨rfl, rfl⟩ := ih other_tail (List.cons.inj last).2
      exact ⟨rfl, rfl⟩

theorem tag_unique {names second : List (List Char)}
    {name attributes rest other_name others behind : List Char}
    (named : isName name = true) (attributed : IsAttributes names attributes) (ends : EndsTag rest)
    (other_named : isName other_name = true) (otherwise : IsAttributes second others)
    (other_ends : EndsTag behind)
    (same : name ++ (attributes ++ rest) = other_name ++ (others ++ behind)) :
    name = other_name ∧ attributes = others ∧ rest = behind := by
  have stops : ∀ {names : List (List Char)} {cs after : List Char}, IsAttributes names cs →
      EndsTag after → Stops isNameCharacter (cs ++ after) := by
    intro names cs after attributed ends
    cases attributed with
    | nil => exact ends.stops
    | cons => exact stops_cons (by decide)
  obtain ⟨rfl, left⟩ := run_unique same (isName_chars named) (stops attributed ends)
    (isName_chars other_named) (stops otherwise other_ends)
  exact ⟨rfl, attributed.unique otherwise ends other_ends left⟩

/-- What may follow a part. Content is followed by the tag that closes its element. -/
def Part.Ends : Part → List Char → Prop
  | element, _ => True
  | content, cs => ∃ rest, cs = '<' :: '/' :: rest

/-- Markup begins here. -/
abbrev Markup (cs : List Char) : Prop := Stops (! ['<', '&'].contains ·) cs

theorem markup_tag (rest : List Char) : Markup ('<' :: rest) := stops_cons (by decide)

theorem markup_reference (rest : List Char) : Markup ('&' :: rest) := stops_cons (by decide)

theorem IsData.unique {run other rest behind : List Char} (plain : IsData run)
    (otherwise : IsData other) (ends : Markup rest) (other_ends : Markup behind)
    (same : run ++ rest = other ++ behind) : run = other ∧ rest = behind := by
  have chars : ∀ {cs : List Char}, IsData cs → ∀ c ∈ cs, (! ['<', '&'].contains c) = true := by
    intro cs data c inside
    simpa using data.plain c inside
  exact run_unique same (chars plain) ends (chars otherwise) other_ends

theorem Marked.opens {cs : List Char} {outline : Outline} (marked : Marked .element cs outline) :
    ∃ c rest, cs = '<' :: c :: rest ∧ startsName c = true := by
  have first : ∀ {name : List Char}, isName name = true →
      ∃ c rest, name = c :: rest ∧ startsName c = true := by
    intro name named
    cases name with
    | nil => cases named
    | cons c rest => exact ⟨c, rest, rfl, ((Bool.and_eq_true _ _).mp named).1⟩
  cases marked with
  | single named attributed =>
    obtain ⟨c, rest, rfl, starts⟩ := first named
    exact ⟨c, _, rfl, starts⟩
  | paired named attributed inside =>
    obtain ⟨c, rest, rfl, starts⟩ := first named
    exact ⟨c, _, rfl, starts⟩

/-- An element begins with a name, which tells it from the tag that closes another. -/
theorem Marked.ne_closing {cs rest behind : List Char} {outline : Outline}
    (marked : Marked .element cs outline) : cs ++ rest ≠ '<' :: '/' :: behind := by
  obtain ⟨c, after, rfl, starts⟩ := marked.opens
  intro same
  simp only [List.cons_append, List.cons.injEq, true_and] at same
  rw [same.1] at starts
  exact absurd starts (by decide)

theorem Marked.markup {cs rest : List Char} {outline : Outline}
    (marked : Marked .element cs outline) : Markup (cs ++ rest) := by
  obtain ⟨c, after, rfl, -⟩ := marked.opens
  exact markup_tag _

theorem IsReference.markup {cs rest : List Char} (reference : IsReference cs) :
    Markup (cs ++ rest) := by
  obtain ⟨name, -, rfl⟩ := reference
  exact markup_reference _

theorem IsReference.ne_tag {cs rest behind : List Char} (reference : IsReference cs) :
    cs ++ rest ≠ '<' :: behind := by
  obtain ⟨name, -, rfl⟩ := reference
  intro same
  exact absurd (List.cons.inj same).1 (by decide)

/-- What a part of a document is, and where it ends, is settled by its text. -/
theorem Marked.unique {part : Part} {cs : List Char} {outline : Outline}
    (marked : Marked part cs outline) {others rest behind : List Char} {other : Outline}
    (otherwise : Marked part others other) (ends : part.Ends rest) (other_ends : part.Ends behind)
    (same : cs ++ rest = others ++ behind) : cs = others ∧ outline = other ∧ rest = behind := by
  -- The first reading is taken apart. In content both readings begin with the same run, and what
  -- comes first behind it, a closing tag, another tag or a reference, is the same for both.
  induction marked generalizing others other rest behind with
  | single named attributed =>
    cases otherwise with
    | single other_named other_attributed =>
      simp only [List.cons_append, List.append_assoc, List.cons.injEq, true_and] at same
      obtain ⟨rfl, rfl, left⟩ := tag_unique named attributed endsTag_single other_named
        other_attributed endsTag_single same
      exact ⟨rfl, rfl, List.append_cancel_left left⟩
    | paired other_named other_attributed inside =>
      simp only [List.cons_append, List.append_assoc, List.cons.injEq, true_and] at same
      obtain ⟨-, -, left⟩ := tag_unique named attributed endsTag_single other_named
        other_attributed endsTag_paired same
      exact absurd (List.cons.inj left).1 (by decide)
  | paired named attributed inside ih =>
    cases otherwise with
    | single other_named other_attributed =>
      simp only [List.cons_append, List.append_assoc, List.cons.injEq, true_and] at same
      obtain ⟨-, -, left⟩ := tag_unique named attributed endsTag_paired other_named
        other_attributed endsTag_single same
      exact absurd (List.cons.inj left).1 (by decide)
    | paired other_named other_attributed other_inside =>
      simp only [List.cons_append, List.append_assoc, List.cons.injEq, true_and] at same
      obtain ⟨rfl, rfl, left⟩ := tag_unique named attributed endsTag_paired other_named
        other_attributed endsTag_paired same
      obtain ⟨rfl, rfl, closed⟩ := ih other_inside ⟨_, rfl⟩ ⟨_, rfl⟩ (List.cons.inj left).2
      simp only [List.cons.injEq, true_and, List.append_cancel_left_eq] at closed
      exact ⟨rfl, rfl, closed⟩
  | data plain =>
    obtain ⟨after, rfl⟩ := ends
    obtain ⟨closing, rfl⟩ := other_ends
    cases otherwise with
    | data other_plain =>
      obtain ⟨rfl, left⟩ := plain.unique other_plain (markup_tag _) (markup_tag _) same
      exact ⟨rfl, rfl, left⟩
    | child other_plain element other_behind =>
      simp only [List.append_assoc] at same
      obtain ⟨-, left⟩ := plain.unique other_plain (markup_tag _) element.markup same
      exact absurd left.symm element.ne_closing
    | reference other_plain reference other_behind =>
      simp only [List.append_assoc] at same
      obtain ⟨-, left⟩ := plain.unique other_plain (markup_tag _) reference.markup same
      exact absurd left.symm reference.ne_tag
  | child plain element tail ih_element ih_tail =>
    cases otherwise with
    | data other_plain =>
      obtain ⟨closing, rfl⟩ := other_ends
      simp only [List.append_assoc] at same
      obtain ⟨-, left⟩ := plain.unique other_plain element.markup (markup_tag _) same
      exact absurd left element.ne_closing
    | child other_plain other_element other_tail =>
      simp only [List.append_assoc] at same
      obtain ⟨rfl, left⟩ := plain.unique other_plain element.markup other_element.markup same
      obtain ⟨rfl, rfl, last⟩ := ih_element other_element trivial trivial left
      obtain ⟨rfl, rfl, rfl⟩ := ih_tail other_tail ends other_ends last
      exact ⟨rfl, rfl, rfl⟩
    | reference other_plain reference other_tail =>
      simp only [List.append_assoc] at same
      obtain ⟨-, left⟩ := plain.unique other_plain element.markup reference.markup same
      obtain ⟨c, after, rfl, -⟩ := element.opens
      exact absurd left.symm reference.ne_tag
  | reference plain reference tail ih =>
    cases otherwise with
    | data other_plain =>
      obtain ⟨closing, rfl⟩ := other_ends
      simp only [List.append_assoc] at same
      obtain ⟨-, left⟩ := plain.unique other_plain reference.markup (markup_tag _) same
      exact absurd left reference.ne_tag
    | child other_plain element other_tail =>
      simp only [List.append_assoc] at same
      obtain ⟨-, left⟩ := plain.unique other_plain reference.markup element.markup same
      obtain ⟨c, after, rfl, -⟩ := element.opens
      exact absurd left reference.ne_tag
    | reference other_plain other_reference other_tail =>
      simp only [List.append_assoc] at same
      obtain ⟨rfl, left⟩ := plain.unique other_plain reference.markup other_reference.markup same
      obtain ⟨rfl, last⟩ := reference.unique other_reference left
      obtain ⟨rfl, rfl, rfl⟩ := ih other_tail ends other_ends last
      exact ⟨rfl, rfl, rfl⟩

/-- A document has one outline. -/
theorem Document.unique {cs : List Char} {outline other : Outline} (document : Document cs outline)
    (otherwise : Document cs other) : outline = other := by
  obtain ⟨gap, root, rfl, space, marked⟩ := document
  obtain ⟨other_gap, other_root, same, other_space, other_marked⟩ := otherwise
  have tag : ∀ {root : List Char} {outline : Outline}, Marked .element root outline →
      Stops isSpace root := by
    intro root outline marked
    obtain ⟨c, rest, rfl, -⟩ := marked.opens
    exact stops_cons (by decide)
  obtain ⟨-, left⟩ := run_unique (List.append_cancel_left same) space (tag marked) other_space
    (tag other_marked)
  have whole : root ++ [] = other_root ++ [] := by rw [left]
  obtain ⟨-, read, -⟩ := marked.unique other_marked trivial trivial whole
  exact read

end EntityDiagram.Xml
