import EntityDiagram.Text.Digit

/-! # Numbers in JSON

An optional minus sign, digits without a superfluous leading zero, then optionally a fraction and
an exponent. A number with neither of the two is whole, except for negative zero.
-/

namespace EntityDiagram.Json

open Text (isDigit decimal)

def digits (cs : List Char) : List Char × List Char :=
  (cs.takeWhile isDigit, cs.dropWhile isDigit)

/-- At least one digit. -/
def someDigits? (cs : List Char) : Option (List Char × List Char) :=
  match digits cs with
  | ([], _) => none
  | found => some found

/-- The digits before the point. -/
def wholePart? (cs : List Char) : Option (List Char × List Char) :=
  match someDigits? cs with
  | some ('0' :: _ :: _, _) => none
  | found => found

/-- A point and digits, or nothing. -/
def fraction? (cs : List Char) : Option (List Char × List Char) :=
  match cs with
  | '.' :: rest => (someDigits? rest).map fun (ds, after) => ('.' :: ds, after)
  | _ => some ([], cs)

def sign (cs : List Char) : List Char × List Char :=
  match cs with
  | '+' :: rest => (['+'], rest)
  | '-' :: rest => (['-'], rest)
  | _ => ([], cs)

/-- The letter, an optional sign and digits, or nothing. -/
def exponent? (cs : List Char) : Option (List Char × List Char) :=
  match cs with
  | c :: rest =>
    if c = 'e' ∨ c = 'E' then
      let (mark, rest) := sign rest
      (someDigits? rest).map fun (ds, after) => (c :: mark ++ ds, after)
    else some ([], cs)
  | [] => some ([], [])

inductive Numeral where
  | whole (n : Int)
  | other (spelling : List Char)
  deriving DecidableEq, Repr

/-- The number whose digits `cs` begins with, after a minus sign if `negative`. -/
def unsigned? (negative : Bool) (cs : List Char) : Option (Numeral × List Char) := do
  let (whole, rest) ← wholePart? cs
  let (fraction, rest) ← fraction? rest
  let (exponent, rest) ← exponent? rest
  let mark := if negative then ['-'] else []
  if fraction.isEmpty && exponent.isEmpty && !(negative && decimal whole == 0) then
    let n : Int := decimal whole
    return (.whole (if negative then -n else n), rest)
  else return (.other (mark ++ whole ++ fraction ++ exponent), rest)

def number? (cs : List Char) : Option (Numeral × List Char) :=
  match cs with
  | '-' :: rest => unsigned? true rest
  | _ => unsigned? false cs

end EntityDiagram.Json
