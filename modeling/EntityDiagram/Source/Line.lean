import EntityDiagram.Model.Basic
import EntityDiagram.Text.Blank
import EntityDiagram.Text.Split
import EntityDiagram.Text.Word

/-! # Declarations on a line

A line declares an entity, `Entity: Name [attribute, key*]`, or a relationship,
`Relationship: A -- label --> B (cardinality)`, or nothing. Blanks may stand between the tokens.
An attribute list runs to the last `]` of the line and a cardinality to the last `)`; whatever
follows is ignored.
-/

namespace EntityDiagram

inductive Line where
  | entity (e : Entity)
  | relationship (r : Relationship)
  | unmatched
  deriving DecidableEq, Repr

namespace Line

open Text

/-- The attribute that one item of a list stands for: stars make it a key and are not part of its
name. An item without a name stands for none. -/
def attribute? (item : List Char) : Option Attribute :=
  match trim (item.filter (· ≠ '*')) with
  | [] => none
  | name => some { name := String.ofList name, primary := item.contains '*' }

def attributes (body : List Char) : List Attribute :=
  (splitAt ',' body).filterMap attribute?

def token? (expected : String) (cs : List Char) : Option (List Char) :=
  dropStart? expected.toList cs

/-- What stands between `opening`, after blanks, and the last `closing`. -/
def enclosed? (opening closing : Char) (cs : List Char) : Option (List Char) :=
  match skipBlanks cs with
  | c :: rest => if c = opening then (cutLast? closing rest).map (·.1) else none
  | [] => none

def entity? (line : List Char) : Option Entity := do
  let rest ← token? "Entity:" line
  let (name, rest) ← word? (skipBlanks rest)
  let body ← enclosed? '[' ']' rest
  return { name := String.ofList name, attributes := attributes body }

/-- Nothing between the parentheses counts as no cardinality. -/
def cardinality (tail : List Char) : String :=
  match enclosed? '(' ')' tail with
  | some (c :: rest) => String.ofList (c :: rest)
  | _ => defaultCardinality

def relationship? (line : List Char) : Option Relationship := do
  let rest ← token? "Relationship:" line
  let (source, rest) ← word? (skipBlanks rest)
  let rest ← token? "--" (skipBlanks rest)
  let (relation, rest) ← word? (skipBlanks rest)
  let rest ← token? "-->" (skipBlanks rest)
  let (target, tail) ← word? (skipBlanks rest)
  return {
    source := String.ofList source
    target := String.ofList target
    relation := String.ofList relation
    cardinality := cardinality tail }

def classify (line : List Char) : Line :=
  match entity? line with
  | some e => .entity e
  | none =>
    match relationship? line with
    | some r => .relationship r
    | none => .unmatched

end Line

end EntityDiagram
