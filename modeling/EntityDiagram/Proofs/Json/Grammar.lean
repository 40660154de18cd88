import EntityDiagram.Json.Reader
import EntityDiagram.Proofs.Json.Number
import EntityDiagram.Proofs.Json.Text
import EntityDiagram.Proofs.Text.Cut

/-! # Texts of the format

The grammar of the format says which texts stand for which value, with blanks in all the places
that may have them. The reader takes exactly these texts, each for its value: what it reads is a
sentence of the grammar, and its bound on the nesting is never what stops it.
-/

namespace EntityDiagram

namespace Json

open Text (Stops)

/-- What a piece of a text can be. -/
inductive Part where
  | value (v : Value)
  | items (vs : List Value)
  | member (m : Option (List Char) × Value)
  | members (ms : List (Option (List Char) × Value))

def Gap (cs : List Char) : Prop := ∀ c ∈ cs, isBlank c = true

def Numeral.value : Numeral → Value
  | whole n => .integer n
  | other spelling => .real spelling

/-- The ways to write a part. Items and members are written without the brackets around them, and
there is at least one. -/
inductive Spelled : Part → List Char → Prop
  | null : Spelled (.value .null) ['n', 'u', 'l', 'l']
  | yes : Spelled (.value (.bool true)) ['t', 'r', 'u', 'e']
  | no : Spelled (.value (.bool false)) ['f', 'a', 'l', 's', 'e']
  | number {n : Numeral} {cs : List Char} (spelled : NumberSpelled n cs) :
      Spelled (.value n.value) cs
  | string {text? : Option (List Char)} {body : List Char} (spelled : StringSpelled text? body) :
      Spelled (.value (.string text?)) ('"' :: (body ++ ['"']))
  | emptyArray {gap : List Char} (blank : Gap gap) : Spelled (.value (.array [])) ('[' :: (gap ++ [']']))
  | array {vs : List Value} {cs : List Char} (items : Spelled (.items vs) cs) :
      Spelled (.value (.array vs)) ('[' :: (cs ++ [']']))
  | emptyTable {gap : List Char} (blank : Gap gap) : Spelled (.value (.table [])) ('{' :: (gap ++ ['}']))
  | table {ms : List (Option (List Char) × Value)} {cs : List Char} (members : Spelled (.members ms) cs) :
      Spelled (.value (.table ms)) ('{' :: (cs ++ ['}']))
  | lastItem {v : Value} {before cs after : List Char} (first : Gap before)
      (value : Spelled (.value v) cs) (last : Gap after) :
      Spelled (.items [v]) (before ++ (cs ++ after))
  | item {v : Value} {vs : List Value} {before cs after ds : List Char} (first : Gap before)
      (value : Spelled (.value v) cs) (last : Gap after) (others : Spelled (.items vs) ds) :
      Spelled (.items (v :: vs)) (before ++ (cs ++ (after ++ ',' :: ds)))
  | member {key? : Option (List Char)} {v : Value} {before key middle behind cs : List Char}
      (first : Gap before) (name : StringSpelled key? key) (second : Gap middle) (third : Gap behind)
      (value : Spelled (.value v) cs) :
      Spelled (.member (key?, v))
        (before ++ '"' :: (key ++ '"' :: (middle ++ ':' :: (behind ++ cs))))
  | lastMember {m : Option (List Char) × Value} {cs after : List Char}
      (member : Spelled (.member m) cs) (last : Gap after) : Spelled (.members [m]) (cs ++ after)
  | nextMember {m : Option (List Char) × Value} {ms : List (Option (List Char) × Value)}
      {cs after ds : List Char} (member : Spelled (.member m) cs) (last : Gap after)
      (others : Spelled (.members ms) ds) : Spelled (.members (m :: ms)) (cs ++ (after ++ ',' :: ds))

/-- A whole text that stands for `v`. -/
def Represents (s : String) (v : Value) : Prop :=
  ∃ before cs after, s.toList = before ++ (cs ++ after) ∧ Gap before ∧ Spelled (.value v) cs ∧
    Gap after

variable {part : Part} {v : Value} {vs : List Value} {m : Option (List Char) × Value}
  {ms : List (Option (List Char) × Value)} {cs gap rest : List Char} {c : Char} {fuel : Nat}

/-! ## Blanks and first characters -/

theorem skipBlanks_append (blank : Gap gap) (stop : Stops isBlank rest) :
    skipBlanks (gap ++ rest) = rest :=
  Text.dropWhile_run blank stop

theorem exists_gap (cs : List Char) : ∃ gap, cs = gap ++ skipBlanks cs ∧ Gap gap :=
  ⟨cs.takeWhile isBlank, (List.takeWhile_append_dropWhile ..).symm, Text.takeWhile_chars _ _⟩

/-- A character that can begin a value. -/
def opens (c : Char) : Bool :=
  Text.isDigit c || ['n', 't', 'f', '-', '"', '[', '{'].contains c

theorem first_of_number {n : Numeral} (spelled : NumberSpelled n cs) :
    ∃ c tail, cs = c :: tail ∧ (Text.isDigit c = true ∨ c = '-') := by
  cases spelled with
  | @parts ds fraction exponent negative whole point power =>
    cases negative with
    | true => exact ⟨'-', _, rfl, .inr rfl⟩
    | false =>
      cases ds with
      | nil => exact absurd rfl whole.1.1
      | cons d others => exact ⟨d, _, rfl, .inl (whole.1.2 d (List.mem_cons_self ..))⟩

theorem first_of_value (spelled : Spelled (.value v) cs) :
    ∃ c tail, cs = c :: tail ∧ opens c = true := by
  cases spelled with
  | null => exact ⟨_, _, rfl, by decide⟩
  | yes => exact ⟨_, _, rfl, by decide⟩
  | no => exact ⟨_, _, rfl, by decide⟩
  | number spelled =>
    obtain ⟨c, tail, rfl, digit | rfl⟩ := first_of_number spelled
    · exact ⟨c, tail, rfl, by rw [opens, digit]; rfl⟩
    · exact ⟨_, _, rfl, by decide⟩
  | string spelled => exact ⟨_, _, rfl, by decide⟩
  | emptyArray blank => exact ⟨_, _, rfl, by decide⟩
  | array items => exact ⟨_, _, rfl, by decide⟩
  | emptyTable blank => exact ⟨_, _, rfl, by decide⟩
  | table members => exact ⟨_, _, rfl, by decide⟩

theorem ne_of_opens {d : Char} (opening : opens c = true) (other : opens d = false) : c ≠ d := by
  rintro rfl
  cases opening.symm.trans other

theorem isBlank_of_opens (opening : opens c = true) : isBlank c = false := by
  have others : ∀ d, opens d = false → (c == d) = false :=
    fun d other => beq_eq_false_iff_ne.mpr (ne_of_opens opening other)
  rw [isBlank, others ' ' (by decide), others '\n' (by decide), others '\t' (by decide),
    others '\r' (by decide)]
  rfl

theorem Spelled.stops (spelled : Spelled (.value v) cs) (rest : List Char) :
    Stops isBlank (cs ++ rest) := by
  obtain ⟨c, tail, rfl, opening⟩ := first_of_value spelled
  exact Text.stops_cons (isBlank_of_opens opening)

theorem skipBlanks_gap (blank : Gap gap) (cs : List Char) : skipBlanks (gap ++ cs) = skipBlanks cs := by
  obtain ⟨more, split, blanks⟩ := exists_gap cs
  have both : Gap (gap ++ more) := fun c inside => (List.mem_append.mp inside).elim (blank c) (blanks c)
  have whole : gap ++ cs = (gap ++ more) ++ skipBlanks cs := by rw [List.append_assoc, ← split]
  rw [whole]
  exact skipBlanks_append both (Text.stops_dropWhile _ _)

theorem skipBlanks_quiet (quiet : isBlank c = false) : skipBlanks (c :: cs) = c :: cs :=
  Text.dropWhile_of_stops (Text.stops_cons quiet)

theorem first_of_items (spelled : Spelled (.items vs) cs) (rest : List Char) :
    ∃ c tail, skipBlanks (cs ++ rest) = c :: tail ∧ opens c = true := by
  have first : ∀ {v before cs}, Gap before → Spelled (.value v) cs → ∀ rest,
      ∃ c tail, skipBlanks (before ++ (cs ++ rest)) = c :: tail ∧ opens c = true := by
    intro v before cs blank value rest
    rw [skipBlanks_append blank (value.stops rest)]
    obtain ⟨c, tail, rfl, opening⟩ := first_of_value value
    exact ⟨c, tail ++ rest, rfl, opening⟩
  cases spelled with
  | lastItem blank value last =>
    rw [List.append_assoc, List.append_assoc]
    exact first blank value _
  | item blank value last others =>
    rw [List.append_assoc, List.append_assoc]
    exact first blank value _

theorem first_of_member (spelled : Spelled (.member m) cs) (rest : List Char) :
    ∃ tail, skipBlanks (cs ++ rest) = '"' :: tail := by
  cases spelled with
  | member blank name second third value =>
    rw [List.append_assoc, List.cons_append]
    exact ⟨_, skipBlanks_append blank (Text.stops_cons (by decide))⟩

theorem first_of_members (spelled : Spelled (.members ms) cs) (rest : List Char) :
    ∃ tail, skipBlanks (cs ++ rest) = '"' :: tail := by
  cases spelled with
  | lastMember member last =>
    rw [List.append_assoc]
    exact first_of_member member _
  | nextMember member last others =>
    rw [List.append_assoc]
    exact first_of_member member _

theorem goesOn_of_isBlank (blank : isBlank c = true) : goesOn c = false := by
  simp only [isBlank, Bool.or_eq_true, beq_iff_eq] at blank
  rcases blank with ((rfl | rfl) | rfl) | rfl <;> decide

/-- Blanks do not go on with a number. -/
theorem Gap.stops (blank : Gap gap) (stop : Stops goesOn rest) : Stops goesOn (gap ++ rest) :=
  Text.Stops.append_of_stops
    (fun c head => goesOn_of_isBlank (blank c (List.mem_of_mem_head? head))) stop

/-! ## The reader, branch by branch -/

theorem value?_gap (blank : Gap gap) (cs : List Char) : value? fuel (gap ++ cs) = value? fuel cs := by
  cases fuel with
  | zero => rw [value?, value?]
  | succ fuel => rw [value?, value?, skipBlanks_gap blank]

theorem value?_scalar (quiet : isBlank c = false) (scalar : c ≠ '"' ∧ c ≠ '[' ∧ c ≠ '{') :
    value? (fuel + 1) (c :: cs) = scalar? (c :: cs) := by
  rw [value?, skipBlanks_quiet quiet]
  split
  · next same => exact absurd (List.cons.inj same).1 scalar.1
  · next same => exact absurd (List.cons.inj same).1 scalar.2.1
  · next same => exact absurd (List.cons.inj same).1 scalar.2.2
  · rfl

theorem scalar?_number {n : Numeral} (spelled : NumberSpelled n cs) (stop : Stops goesOn rest) :
    scalar? (cs ++ rest) = some (n.value, rest) := by
  have read := number?_append spelled stop
  obtain ⟨c, tail, rfl, first⟩ := first_of_number spelled
  have other : ∀ d, Text.isDigit d = false → d ≠ '-' → ¬d = c := by
    rintro d letter unsigned rfl
    rcases first with digit | rfl
    · cases digit.symm.trans letter
    · exact unsigned rfl
  have unworded : word? (c :: tail ++ rest) = none := by
    rw [List.cons_append, word?]
    simp only [String.reduceToList, Text.dropStart?, other 'n' (by decide) (by decide),
      other 't' (by decide) (by decide), other 'f' (by decide) (by decide), if_false,
      Option.map_none]
  rw [scalar?, unworded, read]
  cases n <;> rfl

theorem value?_number {n : Numeral} (spelled : NumberSpelled n cs) (stop : Stops goesOn rest) :
    value? (fuel + 1) (cs ++ rest) = some (n.value, rest) := by
  have read := scalar?_number spelled stop
  have quiet := (Spelled.number spelled).stops rest
  obtain ⟨c, tail, rfl, first⟩ := first_of_number spelled
  refine (value?_scalar (quiet c rfl) ?_).trans read
  rcases first with digit | rfl
  · refine ⟨?_, ?_, ?_⟩ <;> (rintro rfl; cases digit)
  · decide

theorem value?_string {text? : Option (List Char)} (read : string? cs = some (text?, rest)) :
    value? (fuel + 1) ('"' :: cs) = some (.string text?, rest) := by
  rw [value?, skipBlanks_quiet (by decide)]
  simp only [read, Option.map_some]

theorem value?_emptyArray (first : skipBlanks cs = ']' :: rest) :
    value? (fuel + 1) ('[' :: cs) = some (.array [], rest) := by
  rw [value?, skipBlanks_quiet (by decide)]
  simp only [first]

theorem value?_array {tail : List Char} (first : skipBlanks cs = c :: tail) (filled : c ≠ ']') :
    value? (fuel + 1) ('[' :: cs) =
      (items? fuel cs).map fun (items, after) => (.array items, after) := by
  rw [value?, skipBlanks_quiet (by decide)]
  simp only [first]
  split
  · next same => exact absurd (List.cons.inj same).1 filled
  · rfl

theorem value?_emptyTable (first : skipBlanks cs = '}' :: rest) :
    value? (fuel + 1) ('{' :: cs) = some (.table [], rest) := by
  rw [value?, skipBlanks_quiet (by decide)]
  simp only [first]

theorem value?_table {tail : List Char} (first : skipBlanks cs = c :: tail) (filled : c ≠ '}') :
    value? (fuel + 1) ('{' :: cs) =
      (members? fuel cs).map fun (members, after) => (.table members, after) := by
  rw [value?, skipBlanks_quiet (by decide)]
  simp only [first]
  split
  · next same => exact absurd (List.cons.inj same).1 filled
  · rfl

section Sequences

variable {behind after : List Char}

theorem items?_last (value : value? fuel cs = some (v, behind))
    (stop : skipBlanks behind = ']' :: after) : items? (fuel + 1) cs = some ([v], after) := by
  rw [items?, value]
  simp only [stop]

theorem items?_next (value : value? fuel cs = some (v, behind))
    (stop : skipBlanks behind = ',' :: after) (others : items? fuel after = some (vs, rest)) :
    items? (fuel + 1) cs = some (v :: vs, rest) := by
  rw [items?, value]
  simp only [stop, others, Option.map_some]

theorem members?_last (member : member? fuel cs = some (m, behind))
    (stop : skipBlanks behind = '}' :: after) : members? (fuel + 1) cs = some ([m], after) := by
  rw [members?, member]
  simp only [stop]

theorem members?_next (member : member? fuel cs = some (m, behind))
    (stop : skipBlanks behind = ',' :: after) (others : members? fuel after = some (ms, rest)) :
    members? (fuel + 1) cs = some (m :: ms, rest) := by
  rw [members?, member]
  simp only [stop, others, Option.map_some]

theorem member?_of_parts {key? : Option (List Char)} {key : List Char}
    (first : skipBlanks cs = '"' :: key) (name : string? key = some (key?, behind))
    (colon : skipBlanks behind = ':' :: after) (value : value? fuel after = some (v, rest)) :
    member? (fuel + 1) cs = some ((key?, v), rest) := by
  rw [member?, first]
  simp only [name, colon, value, Option.map_some]

end Sequences

/-! ## What is spelled is read -/

/-- What the reader makes of a part, with enough fuel for its length and whatever stands behind. -/
def IsRead (part : Part) (cs : List Char) : Prop :=
  match part with
  | .value v => ∀ fuel rest, 3 * cs.length ≤ fuel → Stops goesOn rest →
      value? fuel (cs ++ rest) = some (v, rest)
  | .items vs => ∀ fuel rest, 3 * cs.length + 1 ≤ fuel →
      items? fuel (cs ++ ']' :: rest) = some (vs, rest)
  | .member m => ∀ fuel rest, 3 * cs.length ≤ fuel → Stops goesOn rest →
      member? fuel (cs ++ rest) = some (m, rest)
  | .members ms => ∀ fuel rest, 3 * cs.length + 1 ≤ fuel →
      members? fuel (cs ++ '}' :: rest) = some (ms, rest)

/-- A value has a character, so it leaves a step to make. -/
theorem isRead_value (nonempty : cs ≠ [])
    (read : ∀ fuel rest, 3 * cs.length ≤ fuel + 1 → Stops goesOn rest →
      value? (fuel + 1) (cs ++ rest) = some (v, rest)) : IsRead (.value v) cs := by
  intro fuel rest enough stop
  have some := List.length_pos_iff.mpr nonempty
  obtain ⟨less, rfl⟩ : ∃ less, fuel = less + 1 := Nat.exists_eq_add_of_le' (by omega)
  exact read less rest enough stop

theorem isRead_of_spelled (spelled : Spelled part cs) : IsRead part cs := by
  induction spelled with
  | null => exact isRead_value nofun fun _ _ _ _ => value?_scalar (by decide) (by decide)
  | yes => exact isRead_value nofun fun _ _ _ _ => value?_scalar (by decide) (by decide)
  | no => exact isRead_value nofun fun _ _ _ _ => value?_scalar (by decide) (by decide)
  | number spelled =>
    obtain ⟨c, tail, rfl, -⟩ := first_of_number spelled
    exact isRead_value nofun fun _ _ _ => value?_number spelled
  | @string text? body spelled =>
    refine isRead_value nofun fun fuel rest _ _ => value?_string (string?_eq_some_iff.mpr ?_)
    exact ⟨body, List.append_assoc .., spelled⟩
  | emptyArray blank =>
    refine isRead_value nofun fun fuel rest _ _ => ?_
    rw [List.cons_append, List.append_assoc]
    exact value?_emptyArray (skipBlanks_append blank (Text.stops_cons (by decide)))
  | @array vs cs items ih =>
    refine isRead_value nofun fun fuel rest enough _ => ?_
    obtain ⟨c, tail, first, opening⟩ := first_of_items items (']' :: rest)
    rw [List.length_cons, List.length_append] at enough
    rw [List.cons_append, List.append_assoc, List.singleton_append,
      value?_array first (ne_of_opens opening (by decide)), ih fuel rest (by omega)]
    rfl
  | emptyTable blank =>
    refine isRead_value nofun fun fuel rest _ _ => ?_
    rw [List.cons_append, List.append_assoc]
    exact value?_emptyTable (skipBlanks_append blank (Text.stops_cons (by decide)))
  | @table ms cs members ih =>
    refine isRead_value nofun fun fuel rest enough _ => ?_
    obtain ⟨tail, first⟩ := first_of_members members ('}' :: rest)
    rw [List.length_cons, List.length_append] at enough
    rw [List.cons_append, List.append_assoc, List.singleton_append,
      value?_table first (by decide), ih fuel rest (by omega)]
    rfl
  | lastItem first value last ih =>
    intro fuel rest enough
    obtain ⟨fuel, rfl⟩ : ∃ less, fuel = less + 1 := Nat.exists_eq_add_of_le' (by omega)
    rw [List.length_append, List.length_append] at enough
    rw [List.append_assoc, List.append_assoc]
    refine items?_last ?_ (skipBlanks_append last (Text.stops_cons (by decide)))
    rw [value?_gap first]
    exact ih fuel _ (by omega) (last.stops (Text.stops_cons (by decide)))
  | item first value last others ih ihs =>
    intro fuel rest enough
    obtain ⟨fuel, rfl⟩ : ∃ less, fuel = less + 1 := Nat.exists_eq_add_of_le' (by omega)
    rw [List.length_append, List.length_append, List.length_append, List.length_cons] at enough
    rw [List.append_assoc, List.append_assoc, List.append_assoc, List.cons_append]
    refine items?_next ?_ (skipBlanks_append last (Text.stops_cons (by decide)))
      (ihs fuel rest (by omega))
    rw [value?_gap first]
    exact ih fuel _ (by omega) (last.stops (Text.stops_cons (by decide)))
  | member first name second third value ih =>
    intro fuel rest enough stop
    simp only [List.length_append, List.length_cons] at enough
    obtain ⟨fuel, rfl⟩ : ∃ less, fuel = less + 1 := Nat.exists_eq_add_of_le' (by omega)
    simp only [List.append_assoc, List.cons_append]
    refine member?_of_parts (skipBlanks_append first (Text.stops_cons (by decide)))
      (string?_eq_some_iff.mpr ⟨_, rfl, name⟩)
      (skipBlanks_append second (Text.stops_cons (by decide))) ?_
    rw [value?_gap third]
    exact ih fuel rest (by omega) stop
  | lastMember member last ih =>
    intro fuel rest enough
    obtain ⟨fuel, rfl⟩ : ∃ less, fuel = less + 1 := Nat.exists_eq_add_of_le' (by omega)
    rw [List.length_append] at enough
    rw [List.append_assoc]
    exact members?_last (ih fuel _ (by omega) (last.stops (Text.stops_cons (by decide))))
      (skipBlanks_append last (Text.stops_cons (by decide)))
  | nextMember member last others ih ihs =>
    intro fuel rest enough
    obtain ⟨fuel, rfl⟩ : ∃ less, fuel = less + 1 := Nat.exists_eq_add_of_le' (by omega)
    rw [List.length_append, List.length_append, List.length_cons] at enough
    rw [List.append_assoc, List.append_assoc, List.cons_append]
    exact members?_next (ih fuel _ (by omega) (last.stops (Text.stops_cons (by decide))))
      (skipBlanks_append last (Text.stops_cons (by decide))) (ihs fuel rest (by omega))

/-! ## What is read is spelled -/

theorem spelled_of_word? (found : word? cs = some (v, rest)) :
    ∃ body, cs = body ++ rest ∧ Spelled (.value v) body := by
  rw [word?] at found
  cases null : Text.dropStart? "null".toList cs with
  | some behind =>
    rw [null] at found
    cases found
    exact ⟨_, Text.dropStart?_eq_some_iff.mp null, .null⟩
  | none =>
    cases yes : Text.dropStart? "true".toList cs with
    | some behind =>
      simp only [null, yes] at found
      cases found
      exact ⟨_, Text.dropStart?_eq_some_iff.mp yes, .yes⟩
    | none =>
      simp only [null, yes] at found
      obtain ⟨behind, no, same⟩ := Option.map_eq_some_iff.mp found
      cases same
      exact ⟨_, Text.dropStart?_eq_some_iff.mp no, .no⟩

theorem spelled_of_scalar? (found : scalar? cs = some (v, rest)) :
    ∃ body, cs = body ++ rest ∧ Spelled (.value v) body := by
  rw [scalar?] at found
  split at found
  · next word =>
    cases found
    exact spelled_of_word? word
  · split at found
    · next n after number =>
      cases found
      obtain ⟨body, split, spelled⟩ := spelled_of_number? number
      exact ⟨body, split, .number (n := .whole n) spelled⟩
    · next spelling after number =>
      cases found
      obtain ⟨body, split, spelled⟩ := spelled_of_number? number
      exact ⟨body, split, .number (n := .other spelling) spelled⟩
    · cases found

/-- With the given fuel, only what is spelled is read. -/
structure Sound (fuel : Nat) : Prop where
  value : ∀ {cs v rest}, value? fuel cs = some (v, rest) →
    ∃ gap body, cs = gap ++ (body ++ rest) ∧ Gap gap ∧ Spelled (.value v) body
  items : ∀ {cs vs rest}, items? fuel cs = some (vs, rest) →
    ∃ body, cs = body ++ ']' :: rest ∧ Spelled (.items vs) body
  member : ∀ {cs m rest}, member? fuel cs = some (m, rest) →
    ∃ body, cs = body ++ rest ∧ Spelled (.member m) body
  members : ∀ {cs ms rest}, members? fuel cs = some (ms, rest) →
    ∃ body, cs = body ++ '}' :: rest ∧ Spelled (.members ms) body

theorem Sound.value_succ (sound : Sound fuel) (found : value? (fuel + 1) cs = some (v, rest)) :
    ∃ gap body, cs = gap ++ (body ++ rest) ∧ Gap gap ∧ Spelled (.value v) body := by
  obtain ⟨gap, split, blank⟩ := exists_gap cs
  suffices read : ∃ body, skipBlanks cs = body ++ rest ∧ Spelled (.value v) body by
    obtain ⟨body, same, spelled⟩ := read
    exact ⟨gap, body, by rw [← same, ← split], blank, spelled⟩
  rw [value?] at found
  split at found
  · next behind start =>
    obtain ⟨⟨text?, after⟩, string, same⟩ := Option.map_eq_some_iff.mp found
    cases same
    obtain ⟨body, rfl, spelled⟩ := string?_eq_some_iff.mp string
    refine ⟨_, ?_, .string spelled⟩
    rw [start, List.cons_append, List.append_assoc]
    rfl
  · next behind start =>
    split at found
    · next after empty =>
      cases found
      obtain ⟨inner, whole, blanks⟩ := exists_gap behind
      refine ⟨_, ?_, .emptyArray blanks⟩
      rw [start, whole, empty, List.cons_append, List.append_assoc]
      rfl
    · obtain ⟨⟨vs, after⟩, items, same⟩ := Option.map_eq_some_iff.mp found
      cases same
      obtain ⟨body, rfl, spelled⟩ := sound.items items
      refine ⟨_, ?_, .array spelled⟩
      rw [start, List.cons_append, List.append_assoc]
      rfl
  · next behind start =>
    split at found
    · next after empty =>
      cases found
      obtain ⟨inner, whole, blanks⟩ := exists_gap behind
      refine ⟨_, ?_, .emptyTable blanks⟩
      rw [start, whole, empty, List.cons_append, List.append_assoc]
      rfl
    · obtain ⟨⟨ms, after⟩, members, same⟩ := Option.map_eq_some_iff.mp found
      cases same
      obtain ⟨body, rfl, spelled⟩ := sound.members members
      refine ⟨_, ?_, .table spelled⟩
      rw [start, List.cons_append, List.append_assoc]
      rfl
  · exact spelled_of_scalar? found

theorem Sound.items_succ (sound : Sound fuel) (found : items? (fuel + 1) cs = some (vs, rest)) :
    ∃ body, cs = body ++ ']' :: rest ∧ Spelled (.items vs) body := by
  rw [items?] at found
  split at found
  · cases found
  · next value behind read =>
    obtain ⟨before, body, rfl, blank, spelled⟩ := sound.value read
    obtain ⟨after, split, blanks⟩ := exists_gap behind
    split at found
    · next left stop =>
      cases found
      refine ⟨_, ?_, .lastItem blank spelled blanks⟩
      rw [stop] at split
      rw [split, List.append_assoc, List.append_assoc]
    · next left stop =>
      obtain ⟨⟨others, last⟩, items, same⟩ := Option.map_eq_some_iff.mp found
      cases same
      obtain ⟨ds, rfl, spelledItems⟩ := sound.items items
      refine ⟨_, ?_, .item blank spelled blanks spelledItems⟩
      rw [stop] at split
      rw [split, List.append_assoc, List.append_assoc, List.append_assoc, List.cons_append]
    · cases found

theorem Sound.member_succ (sound : Sound fuel) (found : member? (fuel + 1) cs = some (m, rest)) :
    ∃ body, cs = body ++ rest ∧ Spelled (.member m) body := by
  obtain ⟨before, whole, blank⟩ := exists_gap cs
  rw [member?] at found
  split at found
  · next behind start =>
    split at found
    · cases found
    · next key? more name =>
      obtain ⟨key, rfl, spelled⟩ := string?_eq_some_iff.mp name
      obtain ⟨middle, split, blanks⟩ := exists_gap more
      split at found
      · next left colon =>
        obtain ⟨⟨value, last⟩, read, same⟩ := Option.map_eq_some_iff.mp found
        cases same
        obtain ⟨gap, body, rfl, others, spelledValue⟩ := sound.value read
        refine ⟨_, ?_, .member blank spelled blanks others spelledValue⟩
        rw [colon] at split
        rw [whole, start, split]
        simp only [List.append_assoc, List.cons_append]
      · cases found
  · cases found

theorem Sound.members_succ (sound : Sound fuel) (found : members? (fuel + 1) cs = some (ms, rest)) :
    ∃ body, cs = body ++ '}' :: rest ∧ Spelled (.members ms) body := by
  rw [members?] at found
  split at found
  · cases found
  · next member behind read =>
    obtain ⟨body, rfl, spelled⟩ := sound.member read
    obtain ⟨after, split, blanks⟩ := exists_gap behind
    split at found
    · next left stop =>
      cases found
      refine ⟨_, ?_, .lastMember spelled blanks⟩
      rw [stop] at split
      rw [split, List.append_assoc]
    · next left stop =>
      obtain ⟨⟨others, last⟩, members, same⟩ := Option.map_eq_some_iff.mp found
      cases same
      obtain ⟨ds, rfl, spelledMembers⟩ := sound.members members
      refine ⟨_, ?_, .nextMember spelled blanks spelledMembers⟩
      rw [stop] at split
      rw [split, List.append_assoc, List.append_assoc, List.cons_append]
    · cases found

theorem sound (fuel : Nat) : Sound fuel := by
  induction fuel with
  | zero => exact ⟨nofun, nofun, nofun, nofun⟩
  | succ fuel ih => exact ⟨ih.value_succ, ih.items_succ, ih.member_succ, ih.members_succ⟩

/-! ## Whole texts -/

theorem read?_of_represents {s : String} (represents : Represents s v) : read? s = some v := by
  obtain ⟨before, cs, after, whole, first, spelled, last⟩ := represents
  have stop := last.stops Text.stops_nil
  rw [List.append_nil] at stop
  have value : value? (3 * s.toList.length + 1) s.toList = some (v, after) := by
    rw [whole, value?_gap first]
    refine isRead_of_spelled spelled _ after ?_ stop
    rw [List.length_append, List.length_append]
    omega
  have blank : skipBlanks after = [] := by
    have skipped : skipBlanks (after ++ []) = [] := skipBlanks_append last Text.stops_nil
    rwa [List.append_nil] at skipped
  rw [read?, value]
  simp only [blank, List.isEmpty_nil, if_true]

/-- A text is read as a value exactly if it stands for it. -/
theorem read?_eq_some_iff {s : String} : read? s = some v ↔ Represents s v := by
  refine ⟨fun found => ?_, read?_of_represents⟩
  rw [read?] at found
  split at found
  · next value rest read =>
    split at found
    · next blank =>
      cases found
      obtain ⟨before, cs, whole, first, spelled⟩ := (sound _).value read
      obtain ⟨after, split, last⟩ := exists_gap rest
      rw [List.isEmpty_iff.mp blank, List.append_nil] at split
      exact ⟨before, cs, rest, whole, first, spelled, split ▸ last⟩
    · cases found
  · cases found

end Json

end EntityDiagram
