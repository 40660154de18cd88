/-! # Structured values

What configuration files and messages hold, whatever the format they are written in. A string that
was read may name half of a surrogate pair; such a string is lexically sound but has no text, so a
string holds an optional list of characters. Numbers that are not whole, and dates and times, keep
their spelling.
-/

namespace EntityDiagram

inductive Value where
  | null
  | bool (b : Bool)
  | integer (n : Int)
  | real (spelling : List Char)
  | moment (spelling : List Char)
  | string (text? : Option (List Char))
  | array (items : List Value)
  | table (members : List (Option (List Char) × Value))
  deriving Repr, Inhabited

namespace Value

def text (s : String) : Value := .string (some s.toList)

def record (members : List (String × Value)) : Value :=
  .table (members.map fun (key, value) => (some key.toList, value))

end Value

end EntityDiagram
