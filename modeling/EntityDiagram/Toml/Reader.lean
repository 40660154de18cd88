import EntityDiagram.Toml.Scalar
import EntityDiagram.Toml.Table
import EntityDiagram.Toml.Text

/-! # Reading TOML

A document is a list of statements, one to a line: keys with values, and headers that say which
table the following keys belong to. Arrays and tables that are written as values may span lines and
may end in a comma; they are nested to a limited depth.
-/

namespace EntityDiagram

namespace Toml

/-- Skips spaces, line breaks and comments. -/
def filler? (inComment : Bool) : List Char → Option (List Char)
  | [] => some []
  | '\r' :: '\n' :: rest => filler? false rest
  | '\n' :: rest => filler? false rest
  | c :: rest =>
    if inComment then if isControl c then none else filler? true rest
    else if isSpace c then filler? false rest
    else if c = '#' then filler? true rest
    else some (c :: rest)

def isBareChar (c : Char) : Bool := c.isAlphanum || c == '_' || c == '-'

/-- One key, bare or quoted. -/
def simpleKey? (cs : List Char) : Option (List Char × List Char) :=
  match cs with
  | '"' :: _ | '\'' :: _ => lineString? cs
  | _ =>
    match cs.takeWhile isBareChar with
    | [] => none
    | key => some (key, cs.dropWhile isBareChar)

/-- Keys with dots between them, and the spaces around all of that. -/
def key? : Nat → List Char → Option (List (List Char) × List Char)
  | 0, _ => none
  | fuel + 1, cs =>
    match simpleKey? (skipSpaces cs) with
    | none => none
    | some (key, rest) =>
      match skipSpaces rest with
      | '.' :: rest => (key? fuel rest).map fun (keys, after) => (key :: keys, after)
      | rest => some ([key], rest)

def path? (cs : List Char) : Option (List (List Char) × List Char) := key? (cs.length + 1) cs

/-- How deep arrays and tables may be nested. -/
def deepest : Nat := 80

mutual

/-- The value that `cs` begins with and what follows it. The fuel bounds the length, `depth` is how
many brackets may still be opened. -/
def value? : Nat → Nat → List Char → Option (Value × List Char)
  | 0, _, _ => none
  | fuel + 1, depth, cs =>
    match cs, depth with
    | '[' :: rest, depth + 1 =>
      (items? fuel depth rest).map fun (items, after) => (.array items, after)
    | '{' :: rest, depth + 1 =>
      match members? fuel depth rest with
      | none => none
      | some (assignments, after) =>
        (Members.assignAll [] assignments).map fun members =>
          (.table (memberValues members), after)
    | '[' :: _, 0 => none
    | '{' :: _, 0 => none
    | '"' :: _, _ => (string? cs).map fun (text, after) => (.string (some text), after)
    | '\'' :: _, _ => (string? cs).map fun (text, after) => (.string (some text), after)
    | _, _ => scalar? cs

/-- Items up to the closing bracket. -/
def items? : Nat → Nat → List Char → Option (List Value × List Char)
  | 0, _, _ => none
  | fuel + 1, depth, cs =>
    match filler? false cs with
    | some (']' :: after) => some ([], after)
    | some cs =>
      match value? fuel depth cs with
      | none => none
      | some (value, rest) =>
        match filler? false rest with
        | some (']' :: after) => some ([value], after)
        | some (',' :: rest) =>
          (items? fuel depth rest).map fun (items, after) => (value :: items, after)
        | _ => none
    | none => none

/-- Keys and values up to the closing brace. -/
def members? : Nat → Nat → List Char → Option (List (List (List Char) × Value) × List Char)
  | 0, _, _ => none
  | fuel + 1, depth, cs =>
    match filler? false cs with
    | some ('}' :: after) => some ([], after)
    | some cs =>
      match assignment? fuel depth cs with
      | none => none
      | some (assignment, rest) =>
        match filler? false rest with
        | some ('}' :: after) => some ([assignment], after)
        | some (',' :: rest) =>
          (members? fuel depth rest).map fun (members, after) => (assignment :: members, after)
        | _ => none
    | none => none

/-- A key, an equals sign and a value. -/
def assignment? : Nat → Nat → List Char → Option ((List (List Char) × Value) × List Char)
  | 0, _, _ => none
  | fuel + 1, depth, cs =>
    match path? cs with
    | some (path, '=' :: rest) =>
      (value? fuel depth (skipSpaces rest)).map fun (value, after) => ((path, value), after)
    | _ => none

end

inductive Statement where
  | table (path : List (List Char))
  | element (path : List (List Char))
  | assignment (path : List (List Char)) (value : Value)

/-- The end of a statement: spaces, a comment perhaps, and a line break or the end of the text. -/
def lineEnd? (cs : List Char) : Option (List Char) :=
  match skipSpaces cs with
  | [] => some []
  | '#' :: rest => filler? true rest
  | rest => dropBreak? rest

def statement? (cs : List Char) : Option (Statement × List Char) :=
  match cs with
  | '[' :: '[' :: rest =>
    match path? rest with
    | some (path, ']' :: ']' :: rest) => (lineEnd? rest).map (.element path, ·)
    | _ => none
  | '[' :: rest =>
    match path? rest with
    | some (path, ']' :: rest) => (lineEnd? rest).map (.table path, ·)
    | _ => none
  | _ =>
    match assignment? (3 * cs.length + 4) deepest cs with
    | some ((path, value), rest) => (lineEnd? rest).map (.assignment path value, ·)
    | none => none

def statements? : Nat → List Char → Option (List Statement)
  | 0, _ => none
  | fuel + 1, cs =>
    match filler? false cs with
    | none => none
    | some [] => some []
    | some cs =>
      match statement? cs with
      | none => none
      | some (statement, rest) => (statements? fuel rest).map (statement :: ·)

/-- Carries out statements on the members of the whole document, where keys belong to the table that
`header` names. -/
def build? (members : Members) (header : List (List Char)) : List Statement → Option Members
  | [] => some members
  | .assignment path value :: rest =>
    match members.change (fun inner => inner.assign value path) header with
    | some members => build? members header rest
    | none => none
  | .table path :: rest =>
    match members.change (Members.openTable (path.getLastD [])) path.dropLast with
    | some members => build? members path rest
    | none => none
  | .element path :: rest =>
    match members.change (Members.openElement (path.getLastD [])) path.dropLast with
    | some members => build? members path rest
    | none => none

/-- A mark of the byte order may stand in front of a document. -/
def withoutMark (cs : List Char) : List Char :=
  match cs with
  | '\ufeff' :: rest => rest
  | _ => cs

def read? (s : String) : Option Value := do
  let cs := withoutMark s.toList
  let statements ← statements? (cs.length + 1) cs
  let members ← build? [] [] statements
  return .table (memberValues members)

end Toml

end EntityDiagram
