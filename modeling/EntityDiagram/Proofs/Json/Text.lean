import EntityDiagram.Json.Text

/-! # What strings stand for

A character of a string can be written as itself, by a short escape, by the four digits of its code
or, past the codes of four digits, by the two halves of a surrogate pair. A string stands for a text
if it is one such way after the other; if it is sound otherwise, it stands for none, which is so
exactly if half of a pair is on its own. The reader takes a string for what it stands for.
-/

namespace EntityDiagram.Json

/-- What stands behind the backslash of a short escape, and what it stands for. -/
def shortEscapes : List (Char × Char) :=
  [('"', '"'), ('\\', '\\'), ('/', '/'), ('b', '\x08'), ('f', '\x0c'), ('n', '\n'), ('r', '\r'),
    ('t', '\t')]

/-- The ways to write a piece of a string. -/
inductive PieceSpelled : Piece → List Char → Prop
  | plain {c : Char} (printed : 0x20 ≤ c.toNat) (unquoted : c ≠ '"') (unescaped : c ≠ '\\') :
      PieceSpelled (.char c) [c]
  | short {mark c : Char} (known : (mark, c) ∈ shortEscapes) : PieceSpelled (.char c) ['\\', mark]
  | unit {a b c d : Char} {n : Nat} (code : Text.numeral? 16 [a, b, c, d] = some n) :
      PieceSpelled (.unit n) ['\\', 'u', a, b, c, d]

/-- The ways to write a character in a string. -/
inductive CharSpelled : Char → List Char → Prop
  | char {c : Char} {cs : List Char} (piece : PieceSpelled (.char c) cs) : CharSpelled c cs
  | unit {c : Char} {cs : List Char} (piece : PieceSpelled (.unit c.toNat) cs) : CharSpelled c cs
  | pair {c : Char} {high low : Nat} {cs ds : List Char} (first : PieceSpelled (.unit high) cs)
      (second : PieceSpelled (.unit low) ds) (upper : 0xD800 ≤ high ∧ high ≤ 0xDBFF)
      (lower : 0xDC00 ≤ low ∧ low ≤ 0xDFFF)
      (code : c.toNat = 0x10000 + (high - 0xD800) * 0x400 + (low - 0xDC00)) :
      CharSpelled c (cs ++ ds)

/-- One after the other. -/
inductive Each {α : Type} (spelled : α → List Char → Prop) : List α → List Char → Prop
  | nil : Each spelled [] []
  | cons {a : α} {rest : List α} {cs behind : List Char} (head : spelled a cs)
      (tail : Each spelled rest behind) : Each spelled (a :: rest) (cs ++ behind)

/-- What stands between the quotes of a string with the text `text?`, if it has one. -/
def StringSpelled (text? : Option (List Char)) (body : List Char) : Prop :=
  match text? with
  | some text => Each CharSpelled text body
  | none => (∃ pieces, Each PieceSpelled pieces body) ∧ ∀ text, ¬Each CharSpelled text body

variable {body cs rest text : List Char} {text? : Option (List Char)} {p : Piece}
  {pieces : List Piece} {n : Nat}

/-! ## Codes -/

theorem digit?_lt {base value : Nat} {c : Char} (digit : Text.digit? base c = some value) :
    value < base := by
  simp only [Text.digit?, Option.ite_none_right_eq_some, Option.some.injEq] at digit
  obtain ⟨bound, rfl⟩ := digit
  exact bound

theorem numeral?_four_lt {a b c d : Char} (code : Text.numeral? 16 [a, b, c, d] = some n) :
    n < 0x10000 := by
  simp only [Text.numeral?, List.foldlM_cons, List.foldlM_nil, Option.bind_eq_bind,
    Option.bind_eq_some_iff, Option.map_eq_some_iff] at code
  obtain ⟨_, ⟨w, first, rfl⟩, _, ⟨x, second, rfl⟩, _, ⟨y, third, rfl⟩, _, ⟨z, fourth, rfl⟩, rest⟩ :=
    code
  have w_lt := digit?_lt first
  have x_lt := digit?_lt second
  have y_lt := digit?_lt third
  have z_lt := digit?_lt fourth
  obtain rfl := Option.some.inj rest
  omega

/-- No character has the code of half a pair. -/
theorem surrogate_toNat (c : Char) : (isHigh c.toNat || isLow c.toNat) = false := by
  have valid : c.toNat < 0xD800 ∨ 0xDFFF < c.toNat ∧ c.toNat < 0x110000 := c.valid
  simp only [isHigh, isLow, Bool.or_eq_false_iff, Bool.and_eq_false_iff, decide_eq_false_iff_not]
  omega

theorem toNat_ofNat_of_code (single : (isHigh n || isLow n) = false) (bound : n < 0x10000) :
    (Char.ofNat n).toNat = n := by
  simp only [isHigh, isLow, Bool.or_eq_false_iff, Bool.and_eq_false_iff,
    decide_eq_false_iff_not] at single
  have valid : n.isValidChar := by
    rw [Nat.isValidChar]
    omega
  rw [Char.ofNat, dif_pos valid]
  rfl

theorem toNat_pairChar {high low : Nat} (upper : isHigh high = true) (lower : isLow low = true) :
    (pairChar high low).toNat = 0x10000 + (high - 0xD800) * 0x400 + (low - 0xDC00) := by
  simp only [isHigh, isLow, Bool.and_eq_true, decide_eq_true_eq] at upper lower
  have valid : (0x10000 + (high - 0xD800) * 0x400 + (low - 0xDC00)).isValidChar := by
    rw [Nat.isValidChar]
    omega
  rw [pairChar, Char.ofNat, dif_pos valid]
  rfl

/-! ## Pieces -/

theorem shortEscape?_eq_some_iff {mark c : Char} :
    shortEscape? mark = some c ↔ (mark, c) ∈ shortEscapes := by
  constructor
  · intro known
    rw [shortEscape?] at known
    split at known
    · next same =>
      cases known
      rcases same with rfl | rfl | rfl <;> decide
    · repeat' split at known
      all_goals cases known
      all_goals subst mark; decide
  · intro member
    simp only [shortEscapes, List.mem_cons, List.not_mem_nil, Prod.mk.injEq, or_false] at member
    rcases member with ⟨rfl, rfl⟩ | ⟨rfl, rfl⟩ | ⟨rfl, rfl⟩ | ⟨rfl, rfl⟩ | ⟨rfl, rfl⟩ | ⟨rfl, rfl⟩ |
      ⟨rfl, rfl⟩ | ⟨rfl, rfl⟩
    all_goals rfl

theorem ne_u_of_shortEscape? {mark c : Char} (known : shortEscape? mark = some c) : mark ≠ 'u' := by
  rintro rfl
  cases known

/-- A piece is read as it is spelled, whatever follows. -/
theorem pieces?_append (spelled : PieceSpelled p cs) (rest : List Char) :
    pieces? (cs ++ rest) = (pieces? rest).map fun (pieces, after) => (p :: pieces, after) := by
  cases spelled with
  | @plain c printed unquoted unescaped =>
    have control : ¬(c.toNat < 0x20 ∨ c = '\\') := fun other =>
      other.elim (Nat.not_lt.mpr printed) unescaped
    rw [List.singleton_append, pieces?.eq_5 c rest unquoted (fun _ _ _ _ _ same _ => unescaped same)
      (fun _ _ same _ => unescaped same), if_neg control]
  | @short mark c known =>
    have escape := shortEscape?_eq_some_iff.mpr known
    rw [List.cons_append, List.singleton_append, pieces?.eq_4 mark rest
      (fun _ _ _ _ _ same _ => ne_u_of_shortEscape? escape same), escape]
  | @unit a b c d n code =>
    change pieces? ('\\' :: 'u' :: a :: b :: c :: d :: rest) = _
    rw [pieces?, fourDigits?, code]

theorem pieces?_of_each (spelled : Each PieceSpelled pieces body) (rest : List Char) :
    pieces? (body ++ '"' :: rest) = some (pieces, rest) := by
  induction spelled with
  | nil => rw [List.nil_append, pieces?]
  | cons head tail ih => rw [List.append_assoc, pieces?_append head, ih]; rfl

/-- One more piece in front of what is read. -/
theorem each_of_map {found : Option (List Piece × List Char)} (spelled : PieceSpelled p cs)
    (behind : ∀ {others}, found = some (others, rest) →
      ∃ body, text = body ++ '"' :: rest ∧ Each PieceSpelled others body)
    (mapped : (found.map fun (others, after) => (p :: others, after)) = some (pieces, rest)) :
    ∃ body, cs ++ text = body ++ '"' :: rest ∧ Each PieceSpelled pieces body := by
  obtain ⟨⟨others, after⟩, rfl, same⟩ := Option.map_eq_some_iff.mp mapped
  cases same
  obtain ⟨body, rfl, each⟩ := behind rfl
  exact ⟨cs ++ body, (List.append_assoc ..).symm, .cons spelled each⟩

theorem each_of_pieces? (found : pieces? cs = some (pieces, rest)) :
    ∃ body, cs = body ++ '"' :: rest ∧ Each PieceSpelled pieces body := by
  induction cs using pieces?.induct generalizing pieces with
  | case1 => cases found
  | case2 rest =>
    cases found
    exact ⟨[], rfl, .nil⟩
  | case3 a b c d behind refused =>
    rw [pieces?, refused] at found
    cases found
  | case4 a b c d behind n code ih =>
    rw [pieces?, code] at found
    exact each_of_map (.unit code) ih found
  | case5 mark behind other refused =>
    rw [pieces?.eq_4 mark behind other, refused] at found
    cases found
  | case6 mark behind other c known ih =>
    rw [pieces?.eq_4 mark behind other, known] at found
    exact each_of_map (.short (shortEscape?_eq_some_iff.mp known)) ih found
  | case7 c behind unquoted unicode escape control =>
    rw [pieces?.eq_5 c behind unquoted unicode escape, if_pos control] at found
    cases found
  | case8 c behind unquoted unicode escape printed ih =>
    rw [pieces?.eq_5 c behind unquoted unicode escape, if_neg printed] at found
    rw [not_or, Nat.not_lt] at printed
    exact each_of_map (.plain printed.1 unquoted printed.2) ih found

/-! ## Characters -/

theorem joined?_unit (single : (isHigh n || isLow n) = false) (pieces : List Piece) :
    joined? (.unit n :: pieces) = (joined? pieces).map (Char.ofNat n :: ·) := by
  have high : isHigh n = false := (Bool.or_eq_false_iff.mp single).1
  cases pieces with
  | nil => simp only [joined?, single, Bool.false_eq_true, if_false, Option.map_some]
  | cons p rest =>
    cases p with
    | char c =>
      simp only [joined?, single, Bool.false_eq_true, if_false, Option.map_map]
      rfl
    | unit m =>
      rw [joined?, single, high]
      rfl

theorem joined?_of_each (spelled : Each CharSpelled text body) :
    ∃ pieces, Each PieceSpelled pieces body ∧ joined? pieces = some text := by
  induction spelled with
  | nil => exact ⟨[], .nil, rfl⟩
  | @cons c text cs behind head tail ih =>
    obtain ⟨pieces, each, joined⟩ := ih
    cases head with
    | char piece =>
      refine ⟨.char c :: pieces, .cons piece each, ?_⟩
      rw [joined?, joined]
      rfl
    | unit piece =>
      refine ⟨.unit c.toNat :: pieces, .cons piece each, ?_⟩
      rw [joined?_unit (surrogate_toNat c), joined, Char.ofNat_toNat]
      rfl
    | @pair high low cs ds first second upper lower code =>
      refine ⟨.unit high :: .unit low :: pieces, ?_, ?_⟩
      · rw [List.append_assoc]
        exact .cons first (.cons second each)
      · have isPair : (isHigh high && isLow low) = true := by
          simp only [isHigh, isLow, Bool.and_eq_true, decide_eq_true_eq]
          exact ⟨upper, lower⟩
        have same : pairChar high low = c := by
          rw [pairChar, ← code, Char.ofNat_toNat]
        rw [joined?, if_pos isPair, joined, same]
        rfl

theorem charSpelled_ofNat (single : (isHigh n || isLow n) = false)
    (spelled : PieceSpelled (.unit n) cs) : CharSpelled (Char.ofNat n) cs := by
  have bound : n < 0x10000 := by
    cases spelled with
    | unit code => exact numeral?_four_lt code
  refine .unit ?_
  rwa [toNat_ofNat_of_code single bound]

theorem each_of_joined? (spelled : Each PieceSpelled pieces body)
    (joined : joined? pieces = some text) : Each CharSpelled text body := by
  induction pieces using joined?.induct generalizing body text with
  | case1 =>
    cases joined
    cases spelled
    exact .nil
  | case2 c rest ih =>
    obtain ⟨others, later, rfl⟩ := Option.map_eq_some_iff.mp joined
    cases spelled with
    | cons head tail => exact .cons (.char head) (ih tail later)
  | case3 n half =>
    rw [joined?, if_pos half] at joined
    cases joined
  | case4 n single =>
    rw [joined?, if_neg single] at joined
    cases joined
    cases spelled with
    | cons head tail =>
      cases tail
      exact .cons (charSpelled_ofNat (Bool.eq_false_iff.mpr single) head) .nil
  | case5 n c rest half =>
    rw [joined?, if_pos half] at joined
    cases joined
  | case6 n c rest single ih =>
    rw [joined?, if_neg single] at joined
    obtain ⟨others, later, rfl⟩ := Option.map_eq_some_iff.mp joined
    cases spelled with
    | cons head tail =>
      cases tail with
      | cons second tail =>
        exact .cons (charSpelled_ofNat (Bool.eq_false_iff.mpr single) head)
          (.cons (.char second) (ih tail later))
  | case7 n m rest both ih =>
    rw [joined?, if_pos both] at joined
    obtain ⟨others, later, rfl⟩ := Option.map_eq_some_iff.mp joined
    obtain ⟨upper, lower⟩ := Bool.and_eq_true_iff.mp both
    have code := toNat_pairChar upper lower
    simp only [isHigh, isLow, Bool.and_eq_true, decide_eq_true_eq] at upper lower
    cases spelled with
    | cons head tail =>
      cases tail with
      | cons second tail =>
        rw [← List.append_assoc]
        exact .cons (.pair head second upper lower code) (ih tail later)
  | case8 n m rest other half =>
    rw [joined?, if_neg other, if_pos half] at joined
    cases joined
  | case9 n m rest other single ih =>
    rw [joined?, if_neg other, if_neg single] at joined
    obtain ⟨others, later, rfl⟩ := Option.map_eq_some_iff.mp joined
    cases spelled with
    | cons head tail =>
      exact .cons (charSpelled_ofNat (Bool.eq_false_iff.mpr single) head) (ih tail later)

/-- An opened string is read for what it stands for. -/
theorem string?_eq_some_iff :
    string? cs = some (text?, rest) ↔ ∃ body, cs = body ++ '"' :: rest ∧ StringSpelled text? body := by
  rw [string?, Option.map_eq_some_iff]
  constructor
  · rintro ⟨⟨pieces, after⟩, found, same⟩
    cases same
    obtain ⟨body, rfl, each⟩ := each_of_pieces? found
    refine ⟨body, rfl, ?_⟩
    cases joined : joined? pieces with
    | some text => exact each_of_joined? each joined
    | none =>
      refine ⟨⟨pieces, each⟩, fun text spelled => ?_⟩
      obtain ⟨others, again, known⟩ := joined?_of_each spelled
      have same := (pieces?_of_each each []).symm.trans (pieces?_of_each again [])
      cases same
      cases joined.symm.trans known
  · rintro ⟨body, rfl, spelled⟩
    cases text? with
    | some text =>
      obtain ⟨pieces, each, joined⟩ := joined?_of_each spelled
      exact ⟨(pieces, rest), pieces?_of_each each rest, congrArg (·, rest) joined⟩
    | none =>
      obtain ⟨⟨pieces, each⟩, never⟩ := spelled
      refine ⟨(pieces, rest), pieces?_of_each each rest, ?_⟩
      cases joined : joined? pieces with
      | none => exact congrArg (·, rest) joined
      | some text => exact absurd (each_of_joined? each joined) (never text)

end EntityDiagram.Json
