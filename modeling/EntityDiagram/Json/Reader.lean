import EntityDiagram.Data.Value
import EntityDiagram.Json.Number
import EntityDiagram.Json.Text
import EntityDiagram.Text.Split

/-! # Reading JSON

A text is read strictly: one value with nothing but blanks around it, no comments, no superfluous
commas. The depth of nesting is bounded by the length of the text.
-/

namespace EntityDiagram

namespace Json

def isBlank (c : Char) : Bool := c == ' ' || c == '\n' || c == '\t' || c == '\r'

def skipBlanks (cs : List Char) : List Char := cs.dropWhile isBlank

/-- The words that stand for a value. -/
def word? (cs : List Char) : Option (Value × List Char) :=
  match Text.dropStart? "null".toList cs with
  | some rest => some (.null, rest)
  | none =>
    match Text.dropStart? "true".toList cs with
    | some rest => some (.bool true, rest)
    | none => (Text.dropStart? "false".toList cs).map fun rest => (.bool false, rest)

def scalar? (cs : List Char) : Option (Value × List Char) :=
  match word? cs with
  | some found => some found
  | none =>
    match number? cs with
    | some (.whole n, rest) => some (.integer n, rest)
    | some (.other spelling, rest) => some (.real spelling, rest)
    | none => none

mutual

/-- The value that `cs` begins with, after blanks, and what follows it. -/
def value? : Nat → List Char → Option (Value × List Char)
  | 0, _ => none
  | fuel + 1, cs =>
    match skipBlanks cs with
    | '"' :: rest => (string? rest).map fun (text?, after) => (.string text?, after)
    | '[' :: rest =>
      match skipBlanks rest with
      | ']' :: after => some (.array [], after)
      | _ => (items? fuel rest).map fun (items, after) => (.array items, after)
    | '{' :: rest =>
      match skipBlanks rest with
      | '}' :: after => some (.table [], after)
      | _ => (members? fuel rest).map fun (members, after) => (.table members, after)
    | other => scalar? other

/-- One item or more, up to the closing bracket. -/
def items? : Nat → List Char → Option (List Value × List Char)
  | 0, _ => none
  | fuel + 1, cs =>
    match value? fuel cs with
    | none => none
    | some (value, rest) =>
      match skipBlanks rest with
      | ']' :: after => some ([value], after)
      | ',' :: rest => (items? fuel rest).map fun (items, after) => (value :: items, after)
      | _ => none

/-- One member or more, up to the closing brace. -/
def members? : Nat → List Char → Option (List (Option (List Char) × Value) × List Char)
  | 0, _ => none
  | fuel + 1, cs =>
    match member? fuel cs with
    | none => none
    | some (member, rest) =>
      match skipBlanks rest with
      | '}' :: after => some ([member], after)
      | ',' :: rest => (members? fuel rest).map fun (members, after) => (member :: members, after)
      | _ => none

def member? : Nat → List Char → Option ((Option (List Char) × Value) × List Char)
  | 0, _ => none
  | fuel + 1, cs =>
    match skipBlanks cs with
    | '"' :: rest =>
      match string? rest with
      | none => none
      | some (key?, rest) =>
        match skipBlanks rest with
        | ':' :: rest => (value? fuel rest).map fun (value, after) => ((key?, value), after)
        | _ => none
    | _ => none

end

/-- The value that a whole text stands for. -/
def read? (s : String) : Option Value :=
  match value? (3 * s.toList.length + 1) s.toList with
  | some (value, rest) => if (skipBlanks rest).isEmpty then some value else none
  | none => none

end Json

end EntityDiagram
