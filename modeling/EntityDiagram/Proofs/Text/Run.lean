import EntityDiagram.Text.Blank
import EntityDiagram.Text.Word

/-! # Runs of characters

A reader that takes characters of one kind for as long as they come finds the one way to write the
text as a run of that kind and a rest that begins with none. Blanks, words and white space are read
so; the three kinds of characters do not meet, except that every blank is white space.
-/

namespace EntityDiagram.Text

/-- No character that satisfies `p` begins the text. -/
def Stops (p : Char → Bool) (cs : List Char) : Prop := ∀ c ∈ cs.head?, p c = false

def Blanks (cs : List Char) : Prop := ∀ c ∈ cs, isBlank c = true

def White (cs : List Char) : Prop := ∀ c ∈ cs, isWhiteSpace c = true

structure IsWord (cs : List Char) : Prop where
  nonempty : cs ≠ []
  chars : ∀ c ∈ cs, isWordChar c = true

/-- White space neither begins nor ends the text. -/
structure Trimmed (cs : List Char) : Prop where
  first : Stops isWhiteSpace cs
  last : Stops isWhiteSpace cs.reverse

section Instances

variable (p : Char → Bool) (cs : List Char)

-- Decided on the list alone: a quantifier over characters may be decided by enumerating them all.

instance : Decidable (Stops p cs) :=
  decidable_of_iff (cs.head?.all (! p ·) = true) (by cases cs <;> simp [Stops])

instance : Decidable (Blanks cs) :=
  decidable_of_iff (cs.all isBlank = true) List.all_eq_true

instance : Decidable (White cs) :=
  decidable_of_iff (cs.all isWhiteSpace = true) List.all_eq_true

instance : Decidable (IsWord cs) :=
  decidable_of_iff (cs ≠ [] ∧ cs.all isWordChar = true)
    ⟨fun word => ⟨word.1, List.all_eq_true.mp word.2⟩,
      fun word => ⟨word.nonempty, List.all_eq_true.mpr word.chars⟩⟩

instance : Decidable (Trimmed cs) :=
  decidable_of_iff (Stops isWhiteSpace cs ∧ Stops isWhiteSpace cs.reverse)
    ⟨fun ends => ⟨ends.1, ends.2⟩, fun ends => ⟨ends.first, ends.last⟩⟩

end Instances

/-! ## Kinds of characters -/

theorem isWhiteSpace_of_isBlank {c : Char} (blank : isBlank c = true) : isWhiteSpace c = true := by
  simp only [isBlank, Bool.or_eq_true, beq_iff_eq] at blank
  rcases blank with rfl | rfl <;> decide

theorem isWordChar_of_isWhiteSpace {c : Char} (space : isWhiteSpace c = true) :
    isWordChar c = false := by
  have spaces : whiteSpace.all (! isWordChar ·) = true := by decide +kernel
  have other := List.all_eq_true.mp spaces c (List.contains_iff_mem.mp space)
  exact (Bool.not_eq_true' _).mp other

theorem isWhiteSpace_of_isWordChar {c : Char} (word : isWordChar c = true) :
    isWhiteSpace c = false := by
  rw [Bool.eq_false_iff]
  intro space
  rw [isWordChar_of_isWhiteSpace space] at word
  cases word

/-! ## Where a run stops -/

section Runs

variable {p : Char → Bool} {run rest other others : List Char}

theorem stops_nil : Stops p [] := by intro c head; cases head

theorem stops_cons {c : Char} (stop : p c = false) : Stops p (c :: rest) := by
  intro d head
  cases head
  exact stop

theorem takeWhile_chars (p : Char → Bool) (cs : List Char) :
    ∀ c ∈ cs.takeWhile p, p c = true :=
  List.all_eq_true.mp List.all_takeWhile

theorem stops_dropWhile (p : Char → Bool) (cs : List Char) : Stops p (cs.dropWhile p) := by
  intro c head
  have stopped := List.head?_dropWhile_not p cs
  rw [Option.mem_def.mp head] at stopped
  exact stopped

theorem dropWhile_of_stops (stop : Stops p rest) : rest.dropWhile p = rest := by
  cases rest with
  | nil => rfl
  | cons c cs => rw [List.dropWhile_cons, stop c rfl]; rfl

theorem Stops.mono {q : Char → Bool} (stop : Stops p rest) (weaker : ∀ c, q c = true → p c = true) :
    Stops q rest :=
  fun c head => Bool.eq_false_iff.mpr (mt (weaker c) (Bool.eq_false_iff.mp (stop c head)))

/-- A text stops a run if its beginning does and that beginning is not empty. -/
theorem Stops.append (stop : Stops p run) (nonempty : run ≠ []) (rest : List Char) :
    Stops p (run ++ rest) := by
  cases run with
  | nil => exact absurd rfl nonempty
  | cons c cs => exact stops_cons (stop c rfl)

theorem Stops.append_of_stops (stop : Stops p run) (next : Stops p rest) : Stops p (run ++ rest) := by
  cases run with
  | nil => exact next
  | cons c cs => exact stops_cons (stop c rfl)

theorem Stops.reverse_append (last : Stops p rest.reverse) (nonempty : rest ≠ [])
    (run : List Char) : Stops p (run ++ rest).reverse := by
  rw [List.reverse_append]
  exact last.append (mt List.reverse_eq_nil_iff.mp nonempty) _

theorem takeWhile_run (chars : ∀ c ∈ run, p c = true) (stop : Stops p rest) :
    (run ++ rest).takeWhile p = run := by
  induction run with
  | nil =>
    cases rest with
    | nil => rfl
    | cons c cs => rw [List.nil_append, List.takeWhile_cons, stop c rfl]; rfl
  | cons c cs ih =>
    rw [List.cons_append, List.takeWhile_cons, chars c (List.mem_cons_self ..)]
    exact congrArg (c :: ·) (ih fun d member => chars d (List.mem_cons_of_mem _ member))

theorem dropWhile_run (chars : ∀ c ∈ run, p c = true) (stop : Stops p rest) :
    (run ++ rest).dropWhile p = rest := by
  have whole := List.takeWhile_append_dropWhile (p := p) (l := run ++ rest)
  rw [takeWhile_run chars stop] at whole
  exact List.append_cancel_left whole

/-- A text is a run and a rest that stops it in one way only. -/
theorem run_unique (same : run ++ rest = other ++ others) (chars : ∀ c ∈ run, p c = true)
    (stop : Stops p rest) (other_chars : ∀ c ∈ other, p c = true) (other_stop : Stops p others) :
    run = other ∧ rest = others := by
  have taken := takeWhile_run chars stop
  have left := dropWhile_run chars stop
  rw [same, takeWhile_run other_chars other_stop] at taken
  rw [same, dropWhile_run other_chars other_stop] at left
  exact ⟨taken.symm, left.symm⟩

end Runs

/-! ## Blanks and words -/

section Readers

variable {gap word rest cs : List Char} {c : Char}

theorem Blanks.white (blanks : Blanks gap) : White gap :=
  fun c member => isWhiteSpace_of_isBlank (blanks c member)

theorem White.stops_word (white : White gap) (stop : Stops isWordChar rest) :
    Stops isWordChar (gap ++ rest) :=
  Stops.append_of_stops
    (fun _ head => isWordChar_of_isWhiteSpace (white _ (List.mem_of_mem_head? head))) stop

theorem Blanks.stops_word (blanks : Blanks gap) (stop : Stops isWordChar rest) :
    Stops isWordChar (gap ++ rest) :=
  blanks.white.stops_word stop

theorem IsWord.stops_space (word : IsWord cs) (rest : List Char) :
    Stops isWhiteSpace (cs ++ rest) :=
  Stops.append
    (fun _ head => isWhiteSpace_of_isWordChar (word.chars _ (List.mem_of_mem_head? head)))
    word.nonempty rest

theorem IsWord.stops_blank (word : IsWord cs) (rest : List Char) : Stops isBlank (cs ++ rest) :=
  (word.stops_space rest).mono fun _ => isWhiteSpace_of_isBlank

theorem IsWord.not_mem (word : IsWord cs) (other : isWordChar c = false) : c ∉ cs := by
  intro member
  rw [word.chars c member] at other
  cases other

theorem IsWord.stops_space_reverse (word : IsWord cs) : Stops isWhiteSpace cs.reverse := by
  intro d head
  exact isWhiteSpace_of_isWordChar
    (word.chars d (List.mem_reverse.mp (List.mem_of_mem_head? head)))

theorem skipBlanks_append (blanks : Blanks gap) (stop : Stops isBlank rest) :
    skipBlanks (gap ++ rest) = rest :=
  dropWhile_run blanks stop

theorem exists_blanks (cs : List Char) :
    ∃ gap, Blanks gap ∧ Stops isBlank (skipBlanks cs) ∧ cs = gap ++ skipBlanks cs :=
  ⟨cs.takeWhile isBlank, takeWhile_chars isBlank cs, stops_dropWhile isBlank cs,
    List.takeWhile_append_dropWhile.symm⟩

theorem word?_eq_some_iff :
    word? cs = some (word, rest) ↔ cs = word ++ rest ∧ IsWord word ∧ Stops isWordChar rest := by
  rw [word?]
  constructor
  · intro found
    split at found
    · cases found
    · rename_i first
      cases found
      exact ⟨List.takeWhile_append_dropWhile.symm, ⟨first, takeWhile_chars isWordChar cs⟩,
        stops_dropWhile isWordChar cs⟩
  · rintro ⟨rfl, word, stop⟩
    rw [takeWhile_run word.chars stop, dropWhile_run word.chars stop]
    split
    · exact absurd rfl word.nonempty
    · rfl

end Readers

/-! ## White space at the ends -/

theorem mem_of_mem_trim {c : Char} {cs : List Char} (inside : c ∈ trim cs) : c ∈ cs := by
  have within : c ∈ (trimStart cs).reverse :=
    (List.dropWhile_suffix isWhiteSpace).subset (List.mem_reverse.mp inside)
  exact (List.dropWhile_suffix isWhiteSpace).subset (List.mem_reverse.mp within)

theorem trim_trimmed (cs : List Char) : Trimmed (trim cs) := by
  have cut : trim cs <+: trimStart cs := by
    have behind := List.reverse_prefix.mpr
      (List.dropWhile_suffix isWhiteSpace (l := (trimStart cs).reverse))
    rwa [List.reverse_reverse] at behind
  refine ⟨fun c head => ?_, ?_⟩
  · obtain ⟨rest, whole⟩ := cut
    refine stops_dropWhile isWhiteSpace cs c ?_
    change c ∈ (trimStart cs).head?
    rw [← whole, List.head?_append, Option.mem_def.mp head]
    exact rfl
  · rw [trim, trimEnd, List.reverse_reverse]
    exact stops_dropWhile isWhiteSpace (trimStart cs).reverse

theorem trim_of_trimmed {cs : List Char} (trimmed : Trimmed cs) : trim cs = cs := by
  rw [trim, trimStart, dropWhile_of_stops trimmed.first, trimEnd, dropWhile_of_stops trimmed.last,
    List.reverse_reverse]

theorem trim_cons {c : Char} (space : isWhiteSpace c = true) (cs : List Char) :
    trim (c :: cs) = trim cs := by
  rw [trim, trim, trimStart, trimStart, List.dropWhile_cons_of_pos space]

theorem White.trimStart {gap : List Char} (white : White gap) : trimStart gap = [] := by
  have run : (gap ++ []).dropWhile isWhiteSpace = [] := dropWhile_run white stops_nil
  rwa [List.append_nil] at run

theorem White.reverse {gap : List Char} (white : White gap) : White gap.reverse :=
  fun c member => white c (List.mem_reverse.mp member)

theorem trimEnd_append_white {gap : List Char} (white : White gap) (cs : List Char) :
    trimEnd (cs ++ gap) = trimEnd cs := by
  have gone : gap.reverse.dropWhile isWhiteSpace = [] := white.reverse.trimStart
  rw [trimEnd, trimEnd, List.reverse_append, List.dropWhile_append, gone]
  rfl

theorem trim_append_white {gap : List Char} (white : White gap) (cs : List Char) :
    trim (cs ++ gap) = trim cs := by
  have gone : gap.dropWhile isWhiteSpace = [] := white.trimStart
  rw [trim, trim, trimStart, trimStart, List.dropWhile_append]
  split
  · next blank => rw [gone, List.isEmpty_iff.mp blank]
  · exact trimEnd_append_white white _

/-- What is cut off is white space. -/
theorem exists_margins (cs : List Char) :
    ∃ front back, White front ∧ White back ∧ cs = front ++ (trim cs ++ back) := by
  have back (ds : List Char) : ds = trimEnd ds ++ (ds.reverse.takeWhile isWhiteSpace).reverse := by
    rw [trimEnd, ← List.reverse_append, List.takeWhile_append_dropWhile, List.reverse_reverse]
  refine ⟨cs.takeWhile isWhiteSpace, ((trimStart cs).reverse.takeWhile isWhiteSpace).reverse,
    takeWhile_chars isWhiteSpace cs, ?_, ?_⟩
  · intro c member
    exact takeWhile_chars isWhiteSpace _ c (List.mem_reverse.mp member)
  · rw [trim, ← back, trimStart, List.takeWhile_append_dropWhile]

theorem trim_eq_nil_iff {cs : List Char} : trim cs = [] ↔ White cs := by
  constructor
  · intro empty
    obtain ⟨front, back, front_white, back_white, whole⟩ := exists_margins cs
    rw [whole, empty, List.nil_append]
    exact List.forall_mem_append.mpr ⟨front_white, back_white⟩
  · intro white
    rw [trim, white.trimStart]
    rfl

end EntityDiagram.Text
