import EntityDiagram.Text.Split

/-! # Cuts and the text they come from

A cut is undone by writing the separator between the pieces. A cut at the last separator is the
only way to write a text around a separator that does not occur behind it; a cut at every separator
distributes over a separator wherever it stands.
-/

namespace EntityDiagram.Text

variable {sep : Char}

theorem dropStart?_eq_some_iff {start cs rest : List Char} :
    dropStart? start cs = some rest ↔ cs = start ++ rest := by
  induction start generalizing cs with
  | nil => simp [dropStart?]
  | cons p ps ih =>
    cases cs with
    | nil => simp [dropStart?]
    | cons c cs =>
      by_cases same : p = c
      · rw [dropStart?, if_pos same, ih, List.cons_append, List.cons.injEq]
        exact (and_iff_right same.symm).symm
      · rw [dropStart?, if_neg same, List.cons_append, List.cons.injEq]
        simp [Ne.symm same]

@[simp] theorem dropStart?_append (start rest : List Char) :
    dropStart? start (start ++ rest) = some rest :=
  dropStart?_eq_some_iff.mpr rfl

/-! ## The last separator -/

theorem cutLast?_eq_none_iff {cs : List Char} : cutLast? sep cs = none ↔ sep ∉ cs := by
  induction cs with
  | nil => simp [cutLast?]
  | cons c rest ih =>
    rw [cutLast?, List.mem_cons, not_or, ← ih]
    cases found : cutLast? sep rest with
    | some parts => simp
    | none =>
      by_cases here : c = sep
      · simp [here]
      · simp [here, Ne.symm here]

theorem cutLast?_append (before : List Char) {after : List Char} (free : sep ∉ after) :
    cutLast? sep (before ++ sep :: after) = some (before, after) := by
  induction before with
  | nil => rw [List.nil_append, cutLast?, cutLast?_eq_none_iff.mpr free]; exact if_pos rfl
  | cons c rest ih => rw [List.cons_append, cutLast?, ih]

private theorem written_of_cutLast? {cs before after : List Char}
    (cut : cutLast? sep cs = some (before, after)) : cs = before ++ sep :: after ∧ sep ∉ after := by
  induction cs generalizing before with
  | nil => cases cut
  | cons c rest ih =>
    rw [cutLast?] at cut
    cases found : cutLast? sep rest with
    | some parts =>
      rw [found] at cut
      cases cut
      obtain ⟨written, free⟩ := ih found
      exact ⟨by rw [List.cons_append, ← written], free⟩
    | none =>
      rw [found] at cut
      by_cases here : c = sep
      · cases (if_pos here).symm.trans cut
        exact ⟨by rw [here, List.nil_append], cutLast?_eq_none_iff.mp found⟩
      · cases (if_neg here).symm.trans cut

/-- The cut at the last separator is the one with no separator behind it. -/
theorem cutLast?_eq_some_iff {cs before after : List Char} :
    cutLast? sep cs = some (before, after) ↔ cs = before ++ sep :: after ∧ sep ∉ after := by
  constructor
  · exact written_of_cutLast?
  · rintro ⟨rfl, free⟩
    exact cutLast?_append before free

/-- Two ways to write a text around a separator that does not occur behind it are the same. -/
theorem last_unique {before after left right : List Char}
    (same : before ++ sep :: after = left ++ sep :: right) (after_free : sep ∉ after)
    (right_free : sep ∉ right) : before = left ∧ after = right := by
  have cut := cutLast?_append before after_free
  rw [same, cutLast?_append left right_free] at cut
  cases cut
  exact ⟨rfl, rfl⟩

/-! ## Every separator -/

theorem splitAt_ne_nil (cs : List Char) : splitAt sep cs ≠ [] := by
  cases cs with
  | nil => simp [splitAt]
  | cons c rest =>
    by_cases here : c = sep
    · simp [splitAt, here]
    · rw [splitAt, if_neg here]
      cases splitAt sep rest <;> simp

/-- A character that is no separator joins the piece behind it. -/
theorem splitAt_cons_of_ne {c : Char} {rest piece : List Char} {pieces : List (List Char)}
    (other : c ≠ sep) (split : splitAt sep rest = piece :: pieces) :
    splitAt sep (c :: rest) = (c :: piece) :: pieces := by
  rw [splitAt, if_neg other, split]

theorem splitAt_of_not_mem {cs : List Char} (absent : sep ∉ cs) : splitAt sep cs = [cs] := by
  induction cs with
  | nil => rfl
  | cons c rest ih =>
    rw [List.mem_cons, not_or] at absent
    exact splitAt_cons_of_ne (Ne.symm absent.1) (ih absent.2)

/-- A separator divides the pieces before it from the pieces behind it. -/
theorem splitAt_append (before after : List Char) :
    splitAt sep (before ++ sep :: after) = splitAt sep before ++ splitAt sep after := by
  induction before with
  | nil => exact if_pos rfl
  | cons c rest ih =>
    rw [List.cons_append, splitAt, splitAt]
    by_cases here : c = sep
    · rw [if_pos here, if_pos here, ih, List.cons_append]
    · rw [if_neg here, if_neg here, ih]
      cases pieces : splitAt sep rest with
      | nil => exact absurd pieces (splitAt_ne_nil rest)
      | cons piece others => rfl

theorem length_splitAt (cs : List Char) : (splitAt sep cs).length = cs.count sep + 1 := by
  induction cs with
  | nil => rfl
  | cons c rest ih =>
    by_cases here : c = sep
    · rw [splitAt, if_pos here, List.length_cons, ih, here, List.count_cons_self]
    · obtain ⟨piece, pieces, split⟩ := List.exists_cons_of_ne_nil (@splitAt_ne_nil sep rest)
      rw [splitAt_cons_of_ne here split, List.count_cons_of_ne here, ← ih, split, List.length_cons,
        List.length_cons]

/-- No piece holds a separator, and no piece holds a character that the text does not. -/
theorem mem_of_mem_splitAt {cs piece : List Char} (member : piece ∈ splitAt sep cs) :
    ∀ c ∈ piece, c ∈ cs ∧ c ≠ sep := by
  induction cs generalizing piece with
  | nil =>
    obtain rfl := List.mem_singleton.mp member
    exact fun c inside => absurd inside List.not_mem_nil
  | cons d rest ih =>
    have later : ∀ {other}, other ∈ splitAt sep rest → ∀ c ∈ other, c ∈ d :: rest ∧ c ≠ sep :=
      fun found c inside => ⟨List.mem_cons_of_mem d (ih found c inside).1, (ih found c inside).2⟩
    by_cases here : d = sep
    · rw [splitAt, if_pos here, List.mem_cons] at member
      rcases member with rfl | found
      · exact fun c inside => absurd inside List.not_mem_nil
      · exact later found
    · obtain ⟨first, others, split⟩ := List.exists_cons_of_ne_nil (@splitAt_ne_nil sep rest)
      rw [splitAt_cons_of_ne here split, List.mem_cons] at member
      rcases member with rfl | found
      · intro c inside
        rcases List.mem_cons.mp inside with rfl | within
        · exact ⟨List.mem_cons_self .., here⟩
        · exact later (split ▸ List.mem_cons_self ..) c within
      · exact later (split ▸ List.mem_cons_of_mem first found)

theorem not_mem_of_mem_splitAt {cs piece : List Char} (member : piece ∈ splitAt sep cs) :
    sep ∉ piece :=
  fun inside => (mem_of_mem_splitAt member sep inside).2 rfl

/-- Pieces that each end in a separator come back, with nothing behind the last one. -/
theorem splitAt_flatMap {pieces : List (List Char)} (whole : ∀ piece ∈ pieces, sep ∉ piece) :
    splitAt sep (pieces.flatMap (· ++ [sep])) = pieces ++ [[]] := by
  induction pieces with
  | nil => rfl
  | cons piece rest ih =>
    rw [List.forall_mem_cons] at whole
    rw [List.flatMap_cons, List.append_assoc, List.singleton_append, splitAt_append,
      splitAt_of_not_mem whole.1, ih whole.2]
    rfl

/-! ## Lines -/

/-- A line feed ends the lines before it. -/
theorem lines_append (before after : List Char) :
    lines (before ++ '\n' :: after) = splitAt '\n' before ++ lines after := by
  rw [lines, lines, splitAt_append, List.reverse_append]
  obtain ⟨last, others, reversed⟩ :=
    List.exists_cons_of_ne_nil (mt List.reverse_eq_nil_iff.mp (@splitAt_ne_nil '\n' after))
  rw [reversed, List.cons_append]
  cases last with
  | nil => simp only [List.reverse_append, List.reverse_reverse]
  | cons c cs => rfl

theorem lines_subset_splitAt (cs : List Char) : lines cs ⊆ splitAt '\n' cs := by
  intro line member
  rw [lines] at member
  split at member
  · next before reversed =>
    rw [← List.mem_reverse, reversed]
    exact List.mem_cons_of_mem [] (List.mem_reverse.mp member)
  · exact member

theorem not_mem_of_mem_lines {cs line : List Char} (member : line ∈ lines cs) : '\n' ∉ line :=
  not_mem_of_mem_splitAt (lines_subset_splitAt cs member)

theorem lines_cons {line : List Char} (whole : '\n' ∉ line) (rest : List Char) :
    lines (line ++ '\n' :: rest) = line :: lines rest := by
  rw [lines_append, splitAt_of_not_mem whole, List.singleton_append]

theorem lines_of_not_mem {line : List Char} (whole : '\n' ∉ line) (text : line ≠ []) :
    lines line = [line] := by
  cases line with
  | nil => exact absurd rfl text
  | cons c cs => rw [lines, splitAt_of_not_mem whole]; rfl

end EntityDiagram.Text
