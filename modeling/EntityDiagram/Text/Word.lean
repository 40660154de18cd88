import EntityDiagram.Text.Alphanumeric

/-! # Words

A word is a non-empty run of letters, numbers and underscores.
-/

namespace EntityDiagram.Text

def isWordChar (c : Char) : Bool := c == '_' || isAlphanumeric c

/-- The longest word that `cs` begins with, and what follows it. -/
def word? (cs : List Char) : Option (List Char × List Char) :=
  match cs.takeWhile isWordChar with
  | [] => none
  | w => some (w, cs.dropWhile isWordChar)

end EntityDiagram.Text
