/-! # Text inside markup

The four characters that markup gives a meaning are written as named escapes, in table labels and
in the slide alike.
-/

namespace EntityDiagram.Text

def escapeMarkupChar (c : Char) : List Char :=
  if c = '&' then "&amp;".toList
  else if c = '<' then "&lt;".toList
  else if c = '>' then "&gt;".toList
  else if c = '"' then "&quot;".toList
  else [c]

def escapeMarkup (s : String) : List Char := s.toList.flatMap escapeMarkupChar

end EntityDiagram.Text
