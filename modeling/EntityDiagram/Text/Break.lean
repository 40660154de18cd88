import EntityDiagram.Text.Alphanumeric

/-! # Places to break a line

A line may be broken after spaces and between characters of some classes. The classes and the rules
are those of the line breaking algorithm of Unicode for ASCII characters; any other character counts
as a letter. A hyphen is a place to break only inside a word.
-/

namespace EntityDiagram.Text

inductive BreakClass where
  | start
  | letter
  | digit
  | opening
  | closing
  | bracket
  | exclamation
  | separator
  | slash
  | currency
  | percent
  | quotation
  | afterwards
  | hyphen
  | mark
  | space
  | lineEnd
  deriving DecidableEq, Repr

namespace BreakClass

def ofChar (c : Char) : BreakClass :=
  if c = ' ' then space
  else if '0' ≤ c ∧ c ≤ '9' then digit
  else if c = '(' ∨ c = '[' ∨ c = '{' then opening
  else if c = '}' then closing
  else if c = ')' ∨ c = ']' then bracket
  else if c = '!' ∨ c = '?' then exclamation
  else if c = ',' ∨ c = '.' ∨ c = ':' ∨ c = ';' then separator
  else if c = '/' then slash
  else if c = '$' ∨ c = '+' ∨ c = '\\' then currency
  else if c = '%' then percent
  else if c = '"' ∨ c = '\'' then quotation
  else if c = '|' ∨ c = '\t' then afterwards
  else if c = '-' then hyphen
  else if c = '\n' ∨ c = '\r' ∨ c = '\x0b' ∨ c = '\x0c' then lineEnd
  else if c.toNat < 0x20 ∨ c.toNat = 0x7F then mark
  else letter

/-- Never at the beginning of a line, even after spaces. -/
def staysBehind (y : BreakClass) : Bool :=
  [closing, bracket, exclamation, separator, slash, space, lineEnd].contains y

def isSign (x : BreakClass) : Bool := x == currency || x == percent

def isWordly (x : BreakClass) : Bool := x == letter || x == digit

/-- Characters of these classes stay together when nothing stands between them. -/
def sticks (x y : BreakClass) : Bool :=
  x == start || x == opening || x == hyphen || x == quotation || y == quotation ||
    y == afterwards || y == hyphen ||
    (isWordly x && (isWordly y || isSign y || y == opening)) ||
    (isSign x && (isWordly y || y == opening)) ||
    (x == closing && isSign y) ||
    (x == bracket && (isWordly y || isSign y)) ||
    (x == separator && isWordly y) ||
    (x == slash && y == digit)

/-- A line may be broken between `x` and `y`, where `spaced` says whether spaces stand between. -/
def mayBreak (x : BreakClass) (spaced : Bool) (y : BreakClass) : Bool :=
  if x == lineEnd && !spaced then true
  else if y.staysBehind then false
  else if spaced then !(x == opening || (x == quotation && y == opening))
  else !x.sticks y

/-- The class that a character of class `y` has after one of class `x`. A mark takes the class of
what it stands on; on its own it is a letter. -/
def after (x : BreakClass) (spaced : Bool) (y : BreakClass) : BreakClass :=
  if y == mark then (if spaced || x == start || x == lineEnd then letter else x) else y

end BreakClass

def prepend (c : Char) : List (List Char) → List (List Char)
  | [] => [[c]]
  | piece :: pieces => (c :: piece) :: pieces

/-- Cuts text wherever a line may be broken, after characters of class `last` and perhaps spaces. -/
def cutAtBreaks (last : BreakClass) (spaced : Bool) : List Char → List (List Char)
  | [] => [[]]
  | c :: rest =>
    let written := BreakClass.ofChar c
    let kind := last.after spaced written
    let pieces :=
      if kind == .space then cutAtBreaks last true rest else cutAtBreaks kind false rest
    if written != .mark && last.mayBreak spaced kind then [] :: prepend c pieces
    else prepend c pieces

/-- Cuts a word after every hyphen that stands between letters or numbers. -/
def cutAtHyphens : List Char → List (List Char)
  | [] => [[]]
  | c :: '-' :: d :: rest =>
    if isAlphanumeric c && isAlphanumeric d then [c, '-'] :: cutAtHyphens (d :: rest)
    else prepend c (cutAtHyphens ('-' :: d :: rest))
  | c :: rest => prepend c (cutAtHyphens rest)

end EntityDiagram.Text
