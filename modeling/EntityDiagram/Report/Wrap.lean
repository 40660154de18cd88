import EntityDiagram.Text.Break
import EntityDiagram.Text.Split

/-! # Wrapped text

Text is broken into lines that, with their indentation, stay within a width. As many words as fit go
on a line; spaces at a break do not count, and a word that is longer than a whole line is cut.
-/

namespace EntityDiagram.Report

open Text

/-- Characters that stay together and the spaces that follow them. -/
structure Word where
  text : List Char
  gap : Nat
  deriving DecidableEq, Repr

namespace Word

def ofPiece (piece : List Char) : Word :=
  let spaces := piece.reverse.takeWhile (· = ' ')
  ⟨piece.take (piece.length - spaces.length), spaces.length⟩

/-- The same word in several pieces, the last of which keeps the gap. -/
def split (gap : Nat) : List (List Char) → List Word
  | [] => []
  | [piece] => [⟨piece, gap⟩]
  | piece :: rest => ⟨piece, 0⟩ :: split gap rest

/-- The word in pieces of at most `width` characters. -/
def shortened (width : Nat) : Nat → Word → List Word
  | 0, w => [w]
  | fuel + 1, w =>
    if w.text.length ≤ width then [w]
    else ⟨w.text.take width, 0⟩ :: shortened width fuel ⟨w.text.drop width, w.gap⟩

def withGap (w : Word) : List Char := w.text ++ List.replicate w.gap ' '

end Word

/-- The words of a line. -/
def words (width : Nat) (cs : List Char) : List Word :=
  (cutAtBreaks .start false cs).flatMap fun piece =>
    let w := Word.ofPiece piece
    (Word.split w.gap (cutAtHyphens w.text)).flatMap fun w => w.shortened width w.text.length

/-- Adds words to a line that is `used` characters long as long as they fit, then begins further
lines. -/
def fill (width : Nat) (line : List Word) (used : Nat) : List Word → List (List Word)
  | [] => [line]
  | w :: rest =>
    if line.isEmpty || used + w.text.length ≤ width then
      fill width (line ++ [w]) (used + w.text.length + w.gap) rest
    else line :: fill width [w] (w.text.length + w.gap) rest

/-- The spaces after the last word do not count. -/
def lineText : List Word → List Char
  | [] => []
  | [w] => w.text
  | w :: rest => w.withGap ++ lineText rest

/-- The lines that fit in `width` of a line of text. -/
def wrapLine (width : Nat) (cs : List Char) : List (List Char) :=
  (fill width [] 0 (words width cs)).map lineText

/-- The lines of a text, the first of which has an indentation of its own, as wide as the others. -/
def wrap (width : Nat) (first rest : List Char) (cs : List Char) : List (List Char) :=
  match (splitAt '\n' cs).flatMap (wrapLine (width - first.length)) with
  | [] => []
  | line :: lines => (first ++ line) :: lines.map (rest ++ ·)

end EntityDiagram.Report
