import EntityDiagram.Data.Value
import EntityDiagram.Text.Split
import EntityDiagram.Toml.Moment

/-! # Scalars in TOML

Values that are written without quotes: truth values, numbers, dates and times. Digits may be
grouped by single underscores. Whole numbers have to fit in 128 bits, other numbers in the range of
double precision.
-/

namespace EntityDiagram.Toml

open Text (isDigit digit? numeral? decimal)

/-- The digits of `cs`, which holds nothing else but single underscores between digits. -/
def grouped? (digit : Char → Bool) : List Char → Option (List Char)
  | [] => none
  | [c] => if digit c then some [c] else none
  | c :: '_' :: d :: rest =>
    if digit c && digit d then (grouped? digit (d :: rest)).map (c :: ·) else none
  | c :: rest => if digit c then (grouped? digit rest).map (c :: ·) else none

def power (base exponent : Nat) : Nat := Nat.pow base exponent

def smallestWhole : Int := -(power 2 127 : Nat)

def largestWhole : Int := (power 2 128 - 1 : Nat)

def whole? (n : Int) : Option Value :=
  if smallestWhole ≤ n ∧ n ≤ largestWhole then some (.integer n) else none

def based? (base : Nat) (cs : List Char) : Option Value := do
  let ds ← grouped? (fun c => (digit? base c).isSome) cs
  let n ← numeral? base ds
  whole? n

def signed (cs : List Char) : Bool × List Char :=
  match cs with
  | '-' :: rest => (true, rest)
  | '+' :: rest => (false, rest)
  | _ => (false, cs)

/-- The digits before the point, without a superfluous leading zero. -/
def leading? (cs : List Char) : Option (List Char) :=
  match grouped? isDigit cs with
  | some ('0' :: _ :: _) => none
  | ds? => ds?

/-- The smallest number that rounds to infinity. -/
def overflowAt : Nat := power 2 1024 - power 2 970

/-- More digits than this before the point overflow. -/
def farthestDigit : Int := 400

/-- `digits` times ten to the power `exponent` is in range. -/
def inRange (digits : List Char) (exponent : Int) : Bool :=
  let n := decimal digits
  let size : Int := digits.length + exponent
  if n = 0 ∨ size < 0 then true
  else if farthestDigit < (digits.dropWhile (· = '0')).length + exponent then false
  else if 0 ≤ exponent then n * power 10 exponent.toNat < overflowAt
  else n < overflowAt * power 10 (-exponent).toNat

/-- The digits after a letter that marks the exponent. -/
def exponent? (cs : List Char) : Option Int := do
  let (negative, rest) := signed cs
  let ds ← grouped? isDigit rest
  let n : Int := decimal ds
  return if negative then -n else n

/-- A number in the base ten, after its sign. -/
def decimal? (negative : Bool) (cs : List Char) : Option Value :=
  let cs := cs.map fun c => if c = 'E' then 'e' else c
  let (mantissa, power?) := match Text.cutFirst? 'e' cs with
    | some (mantissa, power) => (mantissa, some power)
    | none => (cs, none)
  let (front, back?) := match Text.cutFirst? '.' mantissa with
    | some (front, back) => (front, some back)
    | none => (mantissa, none)
  match back?, power? with
  | none, none => do
    let ds ← leading? front
    let n : Int := decimal ds
    whole? (if negative then -n else n)
  | _, _ => do
    let front ← leading? front
    let back ← match back? with
      | some back => grouped? isDigit back
      | none => some []
    let power ← match power? with
      | some power => exponent? power
      | none => some 0
    if inRange (front ++ back) (power - back.length) then some (.real cs) else none

def number? (cs : List Char) : Option Value :=
  match cs with
  | '0' :: 'x' :: rest => based? 16 rest
  | '0' :: 'o' :: rest => based? 8 rest
  | '0' :: 'b' :: rest => based? 2 rest
  | _ =>
    let (negative, rest) := signed cs
    if rest = "inf".toList ∨ rest = "nan".toList then some (.real cs) else decimal? negative rest

def word? (cs : List Char) : Option Value :=
  if cs = "true".toList then some (.bool true)
  else if cs = "false".toList then some (.bool false)
  else if isMoment cs then some (.moment cs)
  else number? cs

def isScalarChar (c : Char) : Bool :=
  c.isAlphanum || c == '_' || c == '+' || c == '-' || c == '.' || c == ':'

/-- The characters of a scalar and what follows them. A single space may stand between a date and a
time. -/
def scalarText (cs : List Char) : List Char × List Char :=
  let first := cs.takeWhile isScalarChar
  let rest := cs.dropWhile isScalarChar
  match rest with
  | ' ' :: d :: more =>
    if isDate first && isDigit d then
      (first ++ ' ' :: (d :: more).takeWhile isScalarChar, (d :: more).dropWhile isScalarChar)
    else (first, rest)
  | _ => (first, rest)

def scalar? (cs : List Char) : Option (Value × List Char) :=
  let (text, rest) := scalarText cs
  (word? text).map (·, rest)

end EntityDiagram.Toml
