/-! # Quoted names in drawings

In a drawing's text a name stands between double quotes, with a backslash before each backslash and
each double quote in it.
-/

namespace EntityDiagram.Drawing

def escapeNameChar (c : Char) : List Char :=
  if c = '\\' then ['\\', '\\'] else if c = '"' then ['\\', '"'] else [c]

def quotedName (s : String) : List Char :=
  '"' :: s.toList.flatMap escapeNameChar ++ ['"']

/-- Entities flow from left to right. -/
def direction : String := "LR"

end EntityDiagram.Drawing
