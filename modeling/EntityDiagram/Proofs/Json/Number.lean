import EntityDiagram.Json.Number
import EntityDiagram.Proofs.Text.Run

/-! # What numbers stand for

A number has a whole part, which begins with a zero only if it is one, and then at most a fraction
and at most an exponent. It is read up to the first character that could not go on with it, so what
follows a number must not begin with such a character.
-/

namespace EntityDiagram.Json

open Text (isDigit decimal Stops)

def Digits (ds : List Char) : Prop := ds ≠ [] ∧ ∀ c ∈ ds, isDigit c = true

/-- No zero in front of other digits. -/
def Whole (ds : List Char) : Prop := Digits ds ∧ ∀ rest, ds = '0' :: rest → rest = []

inductive Fraction : List Char → Prop
  | absent : Fraction []
  | present {ds : List Char} (digits : Digits ds) : Fraction ('.' :: ds)

inductive Exponent : List Char → Prop
  | absent : Exponent []
  | present {letter : Char} {mark ds : List Char} (known : letter = 'e' ∨ letter = 'E')
      (signed : mark = [] ∨ mark = ['+'] ∨ mark = ['-']) (digits : Digits ds) :
      Exponent (letter :: mark ++ ds)

def minus (negative : Bool) : List Char := if negative then ['-'] else []

/-- The number of a whole part, a fraction and an exponent. -/
def numeral (negative : Bool) (ds fraction exponent : List Char) : Numeral :=
  if fraction.isEmpty && exponent.isEmpty && !(negative && decimal ds == 0) then
    .whole (if negative then -decimal ds else decimal ds)
  else .other (minus negative ++ ds ++ fraction ++ exponent)

/-- The ways to write a number. -/
inductive NumberSpelled : Numeral → List Char → Prop
  | parts {ds fraction exponent : List Char} (negative : Bool) (whole : Whole ds)
      (point : Fraction fraction) (power : Exponent exponent) :
      NumberSpelled (numeral negative ds fraction exponent)
        (minus negative ++ (ds ++ (fraction ++ exponent)))

/-- What a number could go on with. -/
def goesOn (c : Char) : Bool := isDigit c || c == '.' || c == 'e' || c == 'E'

variable {cs ds rest fraction exponent : List Char} {negative : Bool} {n : Numeral}

/-! ## Parts -/

theorem someDigits?_append (found : Digits ds) (stop : Stops isDigit rest) :
    someDigits? (ds ++ rest) = some (ds, rest) := by
  rw [someDigits?, digits, Text.takeWhile_run found.2 stop, Text.dropWhile_run found.2 stop]
  cases ds with
  | nil => exact absurd rfl found.1
  | cons d others => rfl

theorem digits_of_someDigits? (found : someDigits? cs = some (ds, rest)) :
    cs = ds ++ rest ∧ Digits ds := by
  rw [someDigits?] at found
  split at found
  · cases found
  · next other =>
    cases found
    refine ⟨(List.takeWhile_append_dropWhile ..).symm, fun none => ?_, ?_⟩
    · exact other _ (by rw [digits, none])
    · exact Text.takeWhile_chars isDigit cs

theorem wholePart?_append (whole : Whole ds) (stop : Stops isDigit rest) :
    wholePart? (ds ++ rest) = some (ds, rest) := by
  rw [wholePart?, someDigits?_append whole.1 stop]
  split
  · next zero =>
    cases zero
    cases whole.2 _ rfl
  · rfl

theorem whole_of_wholePart? (found : wholePart? cs = some (ds, rest)) :
    cs = ds ++ rest ∧ Whole ds := by
  rw [wholePart?] at found
  split at found
  · cases found
  · next other =>
    obtain ⟨split, digits⟩ := digits_of_someDigits? found
    refine ⟨split, digits, fun behind zero => ?_⟩
    cases behind with
    | nil => rfl
    | cons c more => exact absurd (zero ▸ found) (other c more rest)

theorem fraction?_append (point : Fraction fraction) (stop : Stops isDigit rest)
    (undotted : rest.head? ≠ some '.') : fraction? (fraction ++ rest) = some (fraction, rest) := by
  cases point with
  | absent =>
    rw [List.nil_append, fraction?.eq_def]
    split
    · exact absurd rfl undotted
    · rfl
  | present digits =>
    rw [List.cons_append, fraction?, someDigits?_append digits stop]
    rfl

theorem fraction_of_fraction? (found : fraction? cs = some (fraction, rest)) :
    cs = fraction ++ rest ∧ Fraction fraction := by
  rw [fraction?.eq_def] at found
  split at found
  · obtain ⟨⟨ds, after⟩, taken, same⟩ := Option.map_eq_some_iff.mp found
    cases same
    obtain ⟨rfl, digits⟩ := digits_of_someDigits? taken
    exact ⟨rfl, .present digits⟩
  · cases found
    exact ⟨rfl, .absent⟩

theorem sign_append {mark : List Char} (signed : mark = [] ∨ mark = ['+'] ∨ mark = ['-'])
    (found : Digits ds) (rest : List Char) : sign (mark ++ (ds ++ rest)) = (mark, ds ++ rest) := by
  rcases signed with rfl | rfl | rfl
  · cases ds with
    | nil => exact absurd rfl found.1
    | cons d others =>
      have digit := found.2 d (List.mem_cons_self ..)
      rw [List.nil_append, List.cons_append, sign.eq_def]
      split
      · next same => cases (List.cons.inj same).1; cases digit
      · next same => cases (List.cons.inj same).1; cases digit
      · rfl
  · rfl
  · rfl

theorem sign_spec (cs : List Char) : cs = (sign cs).1 ++ (sign cs).2 ∧
    ((sign cs).1 = [] ∨ (sign cs).1 = ['+'] ∨ (sign cs).1 = ['-']) := by
  rw [sign.eq_def]
  split
  · exact ⟨rfl, .inr (.inl rfl)⟩
  · exact ⟨rfl, .inr (.inr rfl)⟩
  · exact ⟨rfl, .inl rfl⟩

theorem exponent?_append (power : Exponent exponent) (stop : Stops isDigit rest)
    (unpowered : rest.head? ≠ some 'e' ∧ rest.head? ≠ some 'E') :
    exponent? (exponent ++ rest) = some (exponent, rest) := by
  cases power with
  | absent =>
    cases rest with
    | nil => rfl
    | cons c behind =>
      rw [List.nil_append, exponent?, if_neg]
      rintro (rfl | rfl)
      · exact unpowered.1 rfl
      · exact unpowered.2 rfl
  | @present letter mark ds known signed digits =>
    rw [List.append_assoc, List.cons_append, exponent?, if_pos known, sign_append signed digits]
    simp only [someDigits?_append digits stop, Option.map_some]

theorem exponent_of_exponent? (found : exponent? cs = some (exponent, rest)) :
    cs = exponent ++ rest ∧ Exponent exponent := by
  cases cs with
  | nil =>
    cases found
    exact ⟨rfl, .absent⟩
  | cons c behind =>
    rw [exponent?] at found
    split at found
    · next known =>
      obtain ⟨split, signed⟩ := sign_spec behind
      cases marked : sign behind with
      | mk mark more =>
        rw [marked] at found split signed
        obtain ⟨⟨ds, after⟩, taken, same⟩ := Option.map_eq_some_iff.mp found
        cases same
        obtain ⟨rfl, digits⟩ := digits_of_someDigits? taken
        refine ⟨?_, .present known signed digits⟩
        rw [split, List.append_assoc, List.cons_append]
    · cases found
      exact ⟨rfl, .absent⟩

/-! ## Numbers -/

theorem Fraction.stops (point : Fraction fraction) {p : Char → Bool} (dot : p '.' = false)
    (stop : Stops p rest) : Stops p (fraction ++ rest) := by
  cases point with
  | absent => exact stop
  | present digits => exact Text.stops_cons dot

theorem Exponent.stops (power : Exponent exponent) {p : Char → Bool} (small : p 'e' = false)
    (large : p 'E' = false) (stop : Stops p rest) : Stops p (exponent ++ rest) := by
  cases power with
  | absent => exact stop
  | present known signed digits => rcases known with rfl | rfl <;> exact Text.stops_cons ‹_›

theorem unsigned?_append (negative : Bool) (whole : Whole ds) (point : Fraction fraction)
    (power : Exponent exponent) (stop : Stops goesOn rest) :
    unsigned? negative (ds ++ (fraction ++ (exponent ++ rest))) =
      some (numeral negative ds fraction exponent, rest) := by
  have digits : Stops isDigit rest := stop.mono fun c digit => by rw [goesOn, digit]; rfl
  have other : ∀ c, goesOn c = true → rest.head? ≠ some c := by
    intro c on head
    rw [stop c head] at on
    cases on
  have behind : Stops isDigit (exponent ++ rest) := power.stops (by decide) (by decide) digits
  have undotted : (exponent ++ rest).head? ≠ some '.' := by
    cases power with
    | absent => exact other '.' (by decide)
    | present known signed digits => rcases known with rfl | rfl <;> exact nofun
  have first := wholePart?_append whole (point.stops (by decide) behind)
  have second := fraction?_append point behind undotted
  have third := exponent?_append power digits ⟨other 'e' (by decide), other 'E' (by decide)⟩
  simp only [unsigned?, first, second, third, Option.bind_eq_bind, Option.bind_some, numeral]
  split <;> rfl

theorem parts_of_unsigned? (found : unsigned? negative cs = some (n, rest)) :
    ∃ ds fraction exponent, cs = ds ++ (fraction ++ (exponent ++ rest)) ∧ Whole ds ∧
      Fraction fraction ∧ Exponent exponent ∧ n = numeral negative ds fraction exponent := by
  simp only [unsigned?, Option.bind_eq_bind, Option.bind_eq_some_iff] at found
  obtain ⟨⟨ds, behind⟩, first, ⟨fraction, later⟩, second, ⟨exponent, left⟩, third, found⟩ := found
  obtain ⟨rfl, whole⟩ := whole_of_wholePart? first
  obtain ⟨rfl, point⟩ := fraction_of_fraction? second
  obtain ⟨rfl, power⟩ := exponent_of_exponent? third
  refine ⟨ds, fraction, exponent, ?_, whole, point, power, ?_⟩
  · split at found <;> cases found <;> rfl
  · rw [numeral]
    split at found
    · next natural => cases found; rw [if_pos natural]
    · next other => cases found; rw [if_neg other]; rfl

/-- A number is read as it is spelled, unless what follows could belong to it. -/
theorem number?_append (spelled : NumberSpelled n cs) (stop : Stops goesOn rest) :
    number? (cs ++ rest) = some (n, rest) := by
  cases spelled with
  | @parts ds fraction exponent negative whole point power =>
    have read := unsigned?_append negative whole point power stop
    rw [List.append_assoc, List.append_assoc, List.append_assoc]
    cases negative with
    | true => exact read
    | false =>
      rw [number?.eq_def]
      split
      · next behind same =>
        cases ds with
        | nil => exact absurd rfl whole.1.1
        | cons d others =>
          have digit := whole.1.2 d (List.mem_cons_self ..)
          cases same
          cases digit
      · exact read

theorem spelled_of_number? (found : number? cs = some (n, rest)) :
    ∃ body, cs = body ++ rest ∧ NumberSpelled n body := by
  rw [number?.eq_def] at found
  split at found
  · obtain ⟨ds, fraction, exponent, rfl, whole, point, power, rfl⟩ := parts_of_unsigned? found
    refine ⟨_, ?_, .parts true whole point power⟩
    simp only [minus, if_true, List.cons_append, List.nil_append, List.append_assoc]
  · obtain ⟨ds, fraction, exponent, rfl, whole, point, power, rfl⟩ := parts_of_unsigned? found
    refine ⟨_, ?_, .parts false whole point power⟩
    simp only [minus, Bool.false_eq_true, if_false, List.nil_append, List.append_assoc]

end EntityDiagram.Json
