import EntityDiagram.Text.Printable

/-! # Quoted text

Text between double quotes, as log records and diagnostics show it: quotes and backslashes are
escaped, and so is every character that would not show.
-/

namespace EntityDiagram.Text

/-- Hexadecimal digits without leading zeros, in lower case. -/
def hexDigits (n : Nat) : List Char := Nat.toDigits 16 n

def escapeQuoted (c : Char) : List Char :=
  if c = '"' then ['\\', '"']
  else if c = '\\' then ['\\', '\\']
  else if c = '\n' then ['\\', 'n']
  else if c = '\r' then ['\\', 'r']
  else if c = '\t' then ['\\', 't']
  else if c = '\x00' then ['\\', '0']
  else if isPrintable c then [c]
  else ['\\', 'u', '{'] ++ hexDigits c.toNat ++ ['}']

def quoted (s : String) : String :=
  String.ofList ('"' :: s.toList.flatMap escapeQuoted ++ ['"'])

end EntityDiagram.Text
