import EntityDiagram.Data.Value

/-! # Records in values

A record is a value with known field names. It may be given as a table, where unknown keys are
ignored and each known one occurs at most once, or as an array of its fields in order, where later
fields may be left out. A date or a time is a record of which no known field is given.
-/

namespace EntityDiagram

namespace Value

/-- The values of the key `name`. -/
def valuesOf (members : List (Option (List Char) × Value)) (name : String) : List Value :=
  members.filterMap fun (key?, value) => if key? = some name.toList then some value else none

/-- The values of the fields, as far as they are given. Whether an array may have more items than
there are fields is up to the format. -/
def fields? (names : List String) (surplus : Bool) : Value → Option (List (Option Value))
  | table members =>
    if members.all (·.1.isSome) && names.all (fun name => (valuesOf members name).length ≤ 1) then
      some (names.map fun name => (valuesOf members name).head?)
    else none
  | array items =>
    if surplus || items.length ≤ names.length then
      some (names.zipIdx.map fun (_, i) => items[i]?)
    else none
  | moment _ => some (names.map fun _ => none)
  | _ => none

def string? : Value → Option String
  | string (some cs) => some (String.ofList cs)
  | _ => none

def largestWord : Nat := 18446744073709551615

/-- A whole number that fits in 64 bits without a sign. -/
def word? : Value → Option Nat
  | integer (.ofNat n) => if n ≤ largestWord then some n else none
  | _ => none

/-- The decoded value, or the default where nothing is given. -/
def orDefault {α : Type} (decode : Value → Option α) (default : α) : Option Value → Option α
  | some value => decode value
  | none => some default

end Value

end EntityDiagram
