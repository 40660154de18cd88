import EntityDiagram.Data.Value

/-! # Compact JSON

The text of a value without blanks, in the order the value has. Dates and times, for which the
format has no form of their own, are written as strings.
-/

namespace EntityDiagram

namespace Json

/-- The short escapes, and four hexadecimal digits for the other control characters. -/
def escapeChar (c : Char) : List Char :=
  if c = '"' then ['\\', '"']
  else if c = '\\' then ['\\', '\\']
  else if c = '\n' then ['\\', 'n']
  else if c = '\r' then ['\\', 'r']
  else if c = '\t' then ['\\', 't']
  else if c = '\x08' then ['\\', 'b']
  else if c = '\x0c' then ['\\', 'f']
  else if c.toNat < 0x20 then
    ['\\', 'u', '0', '0', Nat.digitChar (c.toNat / 16), Nat.digitChar (c.toNat % 16)]
  else [c]

def stringText (cs : List Char) : List Char := '"' :: cs.flatMap escapeChar ++ ['"']

mutual

def text : Value → List Char
  | .null => "null".toList
  | .bool true => "true".toList
  | .bool false => "false".toList
  | .integer n => (toString n).toList
  | .real spelling => spelling
  | .moment spelling => stringText spelling
  | .string text? => stringText (text?.getD [])
  | .array items => '[' :: itemsText items ++ [']']
  | .table members => '{' :: membersText members ++ ['}']

def itemsText : List Value → List Char
  | [] => []
  | [value] => text value
  | value :: rest => text value ++ ',' :: itemsText rest

def membersText : List (Option (List Char) × Value) → List Char
  | [] => []
  | [(key?, value)] => stringText (key?.getD []) ++ ':' :: text value
  | (key?, value) :: rest =>
    stringText (key?.getD []) ++ ':' :: text value ++ ',' :: membersText rest

end

def render (value : Value) : String := String.ofList (text value)

end Json

end EntityDiagram
