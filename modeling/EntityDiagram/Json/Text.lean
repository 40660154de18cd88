import EntityDiagram.Text.Digit

/-! # Strings in JSON

Between its quotes a string holds characters, short escapes and escapes of four hexadecimal digits.
The latter name code units, and two of them that form a surrogate pair stand for one character. A
half of a pair on its own is lexically sound, but then the string has no text.
-/

namespace EntityDiagram.Json

inductive Piece where
  | char (c : Char)
  | unit (n : Nat)
  deriving DecidableEq, Repr

def isHigh (n : Nat) : Bool := 0xD800 ≤ n && n ≤ 0xDBFF

def isLow (n : Nat) : Bool := 0xDC00 ≤ n && n ≤ 0xDFFF

def pairChar (high low : Nat) : Char :=
  Char.ofNat (0x10000 + (high - 0xD800) * 0x400 + (low - 0xDC00))

/-- The characters that the pieces stand for. -/
def joined? : List Piece → Option (List Char)
  | [] => some []
  | .char c :: rest => (joined? rest).map (c :: ·)
  | [.unit n] => if isHigh n || isLow n then none else some [Char.ofNat n]
  | .unit n :: .char c :: rest =>
    if isHigh n || isLow n then none else (joined? rest).map fun cs => Char.ofNat n :: c :: cs
  | .unit n :: .unit m :: rest =>
    if isHigh n && isLow m then (joined? rest).map (pairChar n m :: ·)
    else if isHigh n || isLow n then none
    else (joined? (.unit m :: rest)).map (Char.ofNat n :: ·)

def fourDigits? (a b c d : Char) : Option Nat := Text.numeral? 16 [a, b, c, d]

def shortEscape? (c : Char) : Option Char :=
  if c = '"' ∨ c = '\\' ∨ c = '/' then some c
  else if c = 'b' then some '\x08'
  else if c = 'f' then some '\x0c'
  else if c = 'n' then some '\n'
  else if c = 'r' then some '\r'
  else if c = 't' then some '\t'
  else none

/-- The pieces up to the closing quote, and what follows it. -/
def pieces? : List Char → Option (List Piece × List Char)
  | [] => none
  | '"' :: rest => some ([], rest)
  | '\\' :: 'u' :: a :: b :: c :: d :: rest =>
    match fourDigits? a b c d with
    | none => none
    | some n => (pieces? rest).map fun (pieces, after) => (.unit n :: pieces, after)
  | '\\' :: c :: rest =>
    match shortEscape? c with
    | none => none
    | some escaped => (pieces? rest).map fun (pieces, after) => (.char escaped :: pieces, after)
  | c :: rest =>
    if c.toNat < 0x20 ∨ c = '\\' then none
    else (pieces? rest).map fun (pieces, after) => (.char c :: pieces, after)

/-- What a string that has just been opened stands for, and what follows it. -/
def string? (cs : List Char) : Option (Option (List Char) × List Char) :=
  (pieces? cs).map fun (pieces, after) => (joined? pieces, after)

end EntityDiagram.Json
