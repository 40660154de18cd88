import EntityDiagram.Json.Number

/-! # Dates and times in TOML

A date, a time, or both, and with both an offset. Seconds may be left out. Every field has to be in
its range, and a day in its month.
-/

namespace EntityDiagram.Toml

open Text (isDigit decimal)

/-- Exactly `count` digits. -/
def fixed? (count : Nat) (cs : List Char) : Option (Nat × List Char) :=
  let ds := cs.take count
  if ds.length = count && ds.all isDigit then some (decimal ds, cs.drop count) else none

def expect? (c : Char) : List Char → Option (List Char)
  | d :: rest => if c = d then some rest else none
  | [] => none

def isLeap (year : Nat) : Bool := year % 4 = 0 && (year % 100 ≠ 0 || year % 400 = 0)

def daysIn (year month : Nat) : Nat :=
  if month = 2 then (if isLeap year then 29 else 28)
  else if month = 4 ∨ month = 6 ∨ month = 9 ∨ month = 11 then 30
  else 31

/-- What follows a date. -/
def afterDate? (cs : List Char) : Option (List Char) := do
  let (year, rest) ← fixed? 4 cs
  let (month, rest) ← fixed? 2 (← expect? '-' rest)
  let (day, rest) ← fixed? 2 (← expect? '-' rest)
  if 1 ≤ month && month ≤ 12 && 1 ≤ day && day ≤ daysIn year month then some rest else none

/-- Hours and minutes. -/
def afterClock? (cs : List Char) : Option (List Char) := do
  let (hour, rest) ← fixed? 2 cs
  let (minute, rest) ← fixed? 2 (← expect? ':' rest)
  if hour ≤ 23 && minute ≤ 59 then some rest else none

def afterFraction? (cs : List Char) : Option (List Char) :=
  match cs with
  | '.' :: rest => (Json.someDigits? rest).map (·.2)
  | _ => some cs

/-- What follows a time. -/
def afterTime? (cs : List Char) : Option (List Char) := do
  let rest ← afterClock? cs
  match rest with
  | ':' :: rest =>
    let (second, rest) ← fixed? 2 rest
    if second ≤ 60 then afterFraction? rest else none
  | _ => some rest

/-- The offset of a time from the universal one, or nothing, and then the end. -/
def isOffset (cs : List Char) : Bool :=
  match cs with
  | [] => true
  | ['Z'] | ['z'] => true
  | '+' :: rest | '-' :: rest => afterClock? rest = some []
  | _ => false

def isDate (cs : List Char) : Bool := afterDate? cs = some []

def isTime (cs : List Char) : Bool := afterTime? cs = some []

def isDateTime (cs : List Char) : Bool :=
  match afterDate? cs with
  | some (c :: rest) =>
    (c == 'T' || c == 't' || c == ' ') &&
      match afterTime? rest with
      | some rest => isOffset rest
      | none => false
  | _ => false

def isMoment (cs : List Char) : Bool := isDate cs || isTime cs || isDateTime cs

end EntityDiagram.Toml
