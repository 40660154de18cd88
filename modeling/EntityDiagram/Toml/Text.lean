import EntityDiagram.Text.Digit

/-! # Strings in TOML

Basic strings stand between double quotes and have escapes, literal strings stand between single
quotes and have none. Either may span lines between three quotes; then a line break right after the
opening quotes does not count, and up to two quotes may stand before the closing ones. Control
characters other than the tab are not allowed, and escapes name characters, never surrogates.
-/

namespace EntityDiagram.Toml

def isSpace (c : Char) : Bool := c == ' ' || c == '\t'

def isControl (c : Char) : Bool := (c.toNat < 0x20 && c != '\t') || c.toNat = 0x7F

/-- Drops a line break, of either form, at the beginning. -/
def dropBreak? : List Char → Option (List Char)
  | '\n' :: rest => some rest
  | '\r' :: '\n' :: rest => some rest
  | _ => none

def skipSpaces (cs : List Char) : List Char := cs.dropWhile isSpace

/-- Spaces and line breaks, which a backslash at the end of a line hides. -/
def skipBreaks : List Char → List Char
  | '\r' :: '\n' :: rest => skipBreaks rest
  | '\n' :: rest => skipBreaks rest
  | c :: rest => if isSpace c then skipBreaks rest else c :: rest
  | [] => []

/-- The character that `count` hexadecimal digits name. -/
def codeEscape? (count : Nat) (cs : List Char) : Option (Char × List Char) :=
  match Text.numeral? 16 (cs.take count) with
  | some n =>
    if cs.length < count then none
    else if n.isValidChar then some (Char.ofNat n, cs.drop count)
    else none
  | none => none

def shortEscape? (c : Char) : Option Char :=
  if c = '"' ∨ c = '\\' then some c
  else if c = 'b' then some '\x08'
  else if c = 't' then some '\t'
  else if c = 'n' then some '\n'
  else if c = 'f' then some '\x0c'
  else if c = 'r' then some '\r'
  else if c = 'e' then some '\x1b'
  else none

/-- The character that an escape stands for, after its backslash. -/
def escape? : List Char → Option (Char × List Char)
  | [] => none
  | 'x' :: rest => codeEscape? 2 rest
  | 'u' :: rest => codeEscape? 4 rest
  | 'U' :: rest => codeEscape? 8 rest
  | c :: rest => (shortEscape? c).map (·, rest)

/-- A basic string on one line, after its opening quote. -/
def basic? : Nat → List Char → Option (List Char × List Char)
  | 0, _ => none
  | _ + 1, [] => none
  | _ + 1, '"' :: rest => some ([], rest)
  | fuel + 1, '\\' :: rest =>
    match escape? rest with
    | some (c, rest) => (basic? fuel rest).map fun (cs, after) => (c :: cs, after)
    | none => none
  | fuel + 1, c :: rest =>
    if isControl c then none else (basic? fuel rest).map fun (cs, after) => (c :: cs, after)

/-- A literal string on one line, after its opening quote. -/
def literal? : List Char → Option (List Char × List Char)
  | [] => none
  | '\'' :: rest => some ([], rest)
  | c :: rest =>
    if isControl c then none else (literal? rest).map fun (cs, after) => (c :: cs, after)

/-- The quotes before the closing three and what follows, where a run of quotes has begun. There is
room for two quotes before the closing ones. -/
def closing? (quote : Char) (cs : List Char) : Option (List Char × List Char) :=
  match (cs.takeWhile (· = quote)).length with
  | 0 | 1 | 2 => none
  | 3 => some ([], cs.drop 3)
  | 4 => some ([quote], cs.drop 4)
  | _ => some ([quote, quote], cs.drop 5)

/-- A basic string over lines, after its opening quotes. -/
def basicLines? : Nat → List Char → Option (List Char × List Char)
  | 0, _ => none
  | _ + 1, [] => none
  | fuel + 1, '\\' :: rest =>
    match dropBreak? (skipSpaces rest) with
    | some next => basicLines? fuel (skipBreaks next)
    | none =>
      match escape? rest with
      | some (c, rest) => (basicLines? fuel rest).map fun (cs, after) => (c :: cs, after)
      | none => none
  | fuel + 1, '\r' :: '\n' :: rest =>
    (basicLines? fuel rest).map fun (cs, after) => ('\r' :: '\n' :: cs, after)
  | fuel + 1, c :: rest =>
    match if c = '"' then closing? '"' (c :: rest) else none with
    | some found => some found
    | none =>
      if isControl c && c != '\n' then none
      else (basicLines? fuel rest).map fun (cs, after) => (c :: cs, after)

/-- A literal string over lines, after its opening quotes. -/
def literalLines? : List Char → Option (List Char × List Char)
  | [] => none
  | '\r' :: '\n' :: rest =>
    (literalLines? rest).map fun (cs, after) => ('\r' :: '\n' :: cs, after)
  | c :: rest =>
    match if c = '\'' then closing? '\'' (c :: rest) else none with
    | some found => some found
    | none =>
      if isControl c && c != '\n' then none
      else (literalLines? rest).map fun (cs, after) => (c :: cs, after)

def withoutBreak (cs : List Char) : List Char := (dropBreak? cs).getD cs

/-- A string on one line. -/
def lineString? : List Char → Option (List Char × List Char)
  | '"' :: rest => basic? (rest.length + 1) rest
  | '\'' :: rest => literal? rest
  | _ => none

def string? : List Char → Option (List Char × List Char)
  | '"' :: '"' :: '"' :: rest => basicLines? (rest.length + 1) (withoutBreak rest)
  | '\'' :: '\'' :: '\'' :: rest => literalLines? (withoutBreak rest)
  | cs => lineString? cs

end EntityDiagram.Toml
