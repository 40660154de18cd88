import EntityDiagram.Log
import EntityDiagram.Source.Line

/-! # Documents

A document is read line by line into a model. Each line is trimmed and classified on its own: an
entity takes the place of an earlier one of its name, a relationship is added, and any other line
is skipped. The log accounts for every line.
-/

namespace EntityDiagram

namespace Document

open Text

def entityRegistered (e : Entity) : Record where
  level := .debug
  origin := .reading
  message := "Registering entity"
  fields := [("entity", e.name), ("attributes", toString e.attributes.length)]

def entityRedeclared (number : Nat) : Record where
  level := .debug
  origin := .reading
  message := "Entity redeclared, previous definition replaced"
  fields := [("line_number", toString number)]

def relationshipRegistered (r : Relationship) : Record where
  level := .debug
  origin := .reading
  message := "Registering relationship"
  fields := [("from", r.source), ("to", r.target), ("relation", r.relation)]

def lineSkipped (number : Nat) : Record where
  level := .trace
  origin := .reading
  message := "Skipping unmatched line"
  fields := [("line_number", toString number)]

def documentRead (m : Model) : Record where
  level := .info
  origin := .reading
  message := "Structured text parsed"
  fields := [("entities", toString m.entities.length),
    ("relationships", toString m.relationships.length)]

/-- Registers what line `number` declares. -/
def register (m : Model) (number : Nat) : Line → Logged Model
  | .entity e =>
    match m.insert e with
    | (none, m) => ⟨m, [entityRegistered e]⟩
    | (some _, m) => ⟨m, [entityRegistered e, entityRedeclared number]⟩
  | .relationship r => ⟨m.relate r, [relationshipRegistered r]⟩
  | .unmatched => ⟨m, [lineSkipped number]⟩

/-- Registers the lines of a list, the first of which has the number `number`. -/
def registerAll (m : Model) (number : Nat) : List (List Char) → Logged Model
  | [] => pure m
  | line :: rest => do
    let m ← register m number (Line.classify (trim line))
    registerAll m (number + 1) rest

def parse (text : String) : Logged Model := do
  let m ← registerAll .empty 1 (lines text.toList)
  Logged.say (documentRead m)
  return m

end Document

end EntityDiagram
