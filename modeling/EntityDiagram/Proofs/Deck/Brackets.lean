import EntityDiagram.Proofs.Deck.Rendering

/-! # Brackets and escapes of a rendered tree

A tree renders to tags with text between them, and neither in a tag nor in the text is there a
bracket, since names have none and strings are escaped. So no bracket opens inside another, and no
ampersand stands for itself. Both are shown of anything that holds of tags and texts and that two
texts pass on to the text that they are joined to.
-/

namespace EntityDiagram.Xml

open Text (escapeMarkup escapeMarkupChar escapeMarkupChar_of_plain mem_escapeMarkup)

/-! ## Escapes -/

/-- The references that escapes are written as. -/
def escapes : List String := ["amp", "lt", "gt", "quot"]

/-- Every ampersand begins an escape. -/
def Escaped (cs : List Char) : Prop :=
  ∀ before after, cs = before ++ '&' :: after →
    ∃ name ∈ escapes, name.toList ++ [';'] <+: after

theorem escaped_of_not_mem {cs : List Char} (absent : '&' ∉ cs) : Escaped cs := by
  rintro before after rfl
  exact absurd (List.mem_append_right _ (List.mem_cons_self ..)) absent

theorem escaped_escape (name : String) (known : name ∈ escapes) :
    Escaped ('&' :: (name.toList ++ [';'])) := by
  intro before after same
  cases before with
  | nil => exact ⟨name, known, (List.cons.inj same).2 ▸ List.prefix_rfl⟩
  | cons c before =>
    have absent : ∀ name ∈ escapes, '&' ∉ name.toList ++ [';'] := by decide
    have inside : '&' ∈ name.toList ++ [';'] := by
      rw [(List.cons.inj same).2]
      exact List.mem_append_right _ (List.mem_cons_self ..)
    exact absurd inside (absent name known)

theorem Escaped.append {cs ds : List Char} (first : Escaped cs) (second : Escaped ds) :
    Escaped (cs ++ ds) := by
  intro before after same
  rcases List.append_eq_append_iff.mp same with ⟨behind, -, rest⟩ | ⟨inside, front, rest⟩
  · exact second behind after rest
  · -- An ampersand in the first text has its escape there, one at its end is the second's first.
    cases inside with
    | nil => exact second [] after rest.symm
    | cons c inside =>
      obtain ⟨rfl, rfl⟩ := List.cons.inj rest
      obtain ⟨name, known, within⟩ := first before inside front
      exact ⟨name, known, within.trans (List.prefix_append ..)⟩

theorem escaped_escapeMarkup (s : String) : Escaped (escapeMarkup s) := by
  rw [escapeMarkup]
  induction s.toList with
  | nil => exact escaped_of_not_mem List.not_mem_nil
  | cons c cs ih =>
    rw [List.flatMap_cons]
    apply Escaped.append _ ih
    by_cases special : c ∈ ['&', '<', '>', '"']
    · simp only [List.mem_cons, List.not_mem_nil, or_false] at special
      rcases special with rfl | rfl | rfl | rfl
      · exact escaped_escape "amp" (by decide)
      · exact escaped_escape "lt" (by decide)
      · exact escaped_escape "gt" (by decide)
      · exact escaped_escape "quot" (by decide)
    · rw [escapeMarkupChar_of_plain special]
      apply escaped_of_not_mem
      intro inside
      exact special (List.mem_singleton.mp inside ▸ List.mem_cons_self ..)

/-! ## Brackets -/

/-- Every bracket is closed, and none is opened inside another. -/
structure Shallow (cs : List Char) : Prop where
  balanced : cs.count '<' = cs.count '>'
  depth : ∀ before, before <+: cs →
    before.count '>' ≤ before.count '<' ∧ before.count '<' ≤ before.count '>' + 1

theorem shallow_of_not_mem {cs : List Char} (less : '<' ∉ cs) (greater : '>' ∉ cs) :
    Shallow cs := by
  constructor
  · rw [List.count_eq_zero_of_not_mem less, List.count_eq_zero_of_not_mem greater]
  · intro before within
    have none_less : '<' ∉ before := fun inside => less (within.subset inside)
    have none_greater : '>' ∉ before := fun inside => greater (within.subset inside)
    rw [List.count_eq_zero_of_not_mem none_less, List.count_eq_zero_of_not_mem none_greater]
    exact ⟨Nat.le_refl _, Nat.zero_le _⟩

theorem Shallow.append {cs ds : List Char} (first : Shallow cs) (second : Shallow ds) :
    Shallow (cs ++ ds) := by
  constructor
  · rw [List.count_append, List.count_append, first.balanced, second.balanced]
  · intro before within
    have start := List.prefix_append cs ds
    rcases List.prefix_or_prefix_of_prefix within start with inside | ⟨more, rfl⟩
    · exact first.depth before inside
    · have level := second.depth more ((List.prefix_append_right_inj cs).mp within)
      have balanced := first.balanced
      rw [List.count_append, List.count_append]
      omega

theorem shallow_tag {cs : List Char} (less : '<' ∉ cs) (greater : '>' ∉ cs) :
    Shallow ('<' :: (cs ++ ['>'])) := by
  have opened := List.count_eq_zero_of_not_mem less
  have closed := List.count_eq_zero_of_not_mem greater
  constructor
  · simp [opened, closed]
  · intro before within
    cases before with
    | nil => simp
    | cons c before =>
      obtain ⟨rfl, rest⟩ := List.cons_prefix_cons.mp within
      have fewer_less := rest.sublist.count_le '<'
      have fewer_greater := rest.sublist.count_le '>'
      simp [opened, closed] at fewer_less fewer_greater ⊢
      omega

/-! ## Tags and the text between them -/

/-- What may stand in a tag and what may stand between two. -/
structure Flat (cs : List Char) : Prop where
  less : '<' ∉ cs
  greater : '>' ∉ cs
  escaped : Escaped cs

theorem Flat.append {cs ds : List Char} (first : Flat cs) (second : Flat ds) : Flat (cs ++ ds) where
  less := fun inside => (List.mem_append.mp inside).elim first.less second.less
  greater := fun inside => (List.mem_append.mp inside).elim first.greater second.greater
  escaped := first.escaped.append second.escaped

theorem flat_of_plain {cs : List Char} (plain : ∀ c ∈ cs, c ∉ ['&', '<', '>']) : Flat cs where
  less := fun inside => plain '<' inside (by decide)
  greater := fun inside => plain '>' inside (by decide)
  escaped := escaped_of_not_mem fun inside => plain '&' inside (by decide)

theorem flat_nil : Flat [] := flat_of_plain fun _ none => nomatch none

theorem flat_singleton {c : Char} (plain : c ∉ ['&', '<', '>']) : Flat [c] :=
  flat_of_plain (List.forall_mem_singleton.mpr plain)

theorem flat_of_isName {cs : List Char} (named : isName cs = true) : Flat cs := by
  apply flat_of_plain
  intro c inside special
  have part := isName_chars named c inside
  have none : ['&', '<', '>'].all (fun c => !isNameCharacter c) = true := by decide
  have never := List.all_eq_true.mp none c special
  rw [part] at never
  cases never

theorem flat_escapeMarkup (s : String) : Flat (escapeMarkup s) where
  less := Text.not_mem_escapeMarkup s
  greater := by
    intro inside
    rcases mem_escapeMarkup inside with ⟨-, plain⟩ | spelled
    · exact plain (by decide)
    · exact absurd spelled (by decide)
  escaped := escaped_escapeMarkup s

theorem flat_tagText {name : String} {attributes : List (String × String)}
    (named : isName name.toList = true) (attributed : ∀ a ∈ attributes, isName a.1.toList = true) :
    Flat (tagText name attributes) := by
  have values : Flat (attributes.flatMap attributeText) := by
    induction attributes with
    | nil => exact flat_nil
    | cons a rest ih =>
      rw [List.forall_mem_cons] at attributed
      have space : Flat [' '] := flat_singleton (by decide)
      have equals : Flat ['='] := flat_singleton (by decide)
      have quote : Flat ['"'] := flat_singleton (by decide)
      have name := space.append (flat_of_isName attributed.1)
      have value := (quote.append (flat_escapeMarkup a.2)).append quote
      have written : attributeText a =
          ([' '] ++ a.1.toList) ++ (['='] ++ (['"'] ++ escapeMarkup a.2 ++ ['"'])) := by
        simp [attributeText]
      rw [List.flatMap_cons, written]
      exact (name.append (equals.append value)).append (ih attributed.2)
  exact (flat_of_isName named).append values

def openTag (name : String) (attributes : List (String × String)) : List Char :=
  '<' :: (tagText name attributes ++ ['>'])

def closeTag (name : String) : List Char := '<' :: ('/' :: name.toList ++ ['>'])

theorem render_paired (name : String) (attributes : List (String × String)) {children : List Xml}
    (some : children ≠ []) :
    (element name attributes children).render =
      openTag name attributes ++ (renderAll children ++ closeTag name) := by
  obtain ⟨child, rest, rfl⟩ := List.exists_cons_of_ne_nil some
  simp [render, renderAll, openTag, closeTag]

/-- What a document has if its tags and the text between them have it. -/
structure Pieced (P : List Char → Prop) : Prop where
  flat : ∀ cs, Flat cs → P cs
  tag : ∀ cs, Flat cs → P ('<' :: (cs ++ ['>']))
  append : ∀ cs ds, P cs → P ds → P (cs ++ ds)

mutual

theorem Pieced.render {P : List Char → Prop} (pieced : Pieced P) (x : Xml)
    (tidy : x.valid = true) : P x.render := by
  cases x with
  | text content => exact pieced.flat _ (flat_escapeMarkup content)
  | element name attributes children =>
    obtain ⟨named, attributed, -, inside⟩ := valid_element.mp tidy
    have slash : Flat ['/'] := flat_singleton (by decide)
    have opening := flat_tagText named attributed
    cases children with
    | nil =>
      have written : (element name attributes []).render =
          '<' :: (tagText name attributes ++ ['/'] ++ ['>']) := by
        simp [Xml.render]
      rw [written]
      exact pieced.tag _ (opening.append slash)
    | cons child children =>
      have closing := pieced.tag _ (slash.append (flat_of_isName named))
      have content := pieced.renderAll (child :: children) inside
      rw [render_paired name attributes (List.cons_ne_nil child children)]
      exact pieced.append _ _ (pieced.tag _ opening) (pieced.append _ _ content closing)

theorem Pieced.renderAll {P : List Char → Prop} (pieced : Pieced P) (children : List Xml)
    (tidy : validAll children = true) : P (Xml.renderAll children) := by
  cases children with
  | nil => exact pieced.flat _ flat_nil
  | cons x rest =>
    obtain ⟨first, others⟩ := (Bool.and_eq_true _ _).mp tidy
    exact pieced.append _ _ (pieced.render x first) (pieced.renderAll rest others)

end

theorem pieced_shallow : Pieced Shallow where
  flat := fun _ flat => shallow_of_not_mem flat.less flat.greater
  tag := fun _ flat => shallow_tag flat.less flat.greater
  append := fun _ _ => Shallow.append

theorem pieced_escaped : Pieced Escaped where
  flat := fun _ flat => flat.escaped
  tag := by
    intro cs flat
    have less : Escaped ['<'] := escaped_of_not_mem (by decide)
    have greater : Escaped ['>'] := escaped_of_not_mem (by decide)
    exact less.append (flat.escaped.append greater)
  append := fun _ _ => Escaped.append

end EntityDiagram.Xml
