import EntityDiagram.Text.Similarity

/-! # The options of the command

Every argument has a name in the usage line. Options have a long name, some have a letter, and some
take a value.
-/

namespace EntityDiagram

inductive Argument where
  | input
  | output
  | config
  | structured
  | dot
  | slide
  | logLevel
  | help
  | version
  deriving DecidableEq, Repr

namespace Argument

/-- The options, in the order in which they are listed. -/
def options : List Argument :=
  [output, config, structured, dot, slide, logLevel, help, version]

def longName : Argument → String
  | input => "input"
  | output => "output"
  | config => "config"
  | structured => "structured"
  | dot => "dot"
  | slide => "slide"
  | logLevel => "log-level"
  | help => "help"
  | version => "version"

def letter? : Argument → Option Char
  | output => some 'o'
  | config => some 'c'
  | help => some 'h'
  | version => some 'V'
  | _ => none

/-- What the value of an option is called. -/
def valueName? : Argument → Option String
  | output => some "OUTPUT"
  | config => some "CONFIG"
  | logLevel => some "LOG_LEVEL"
  | _ => none

def takesValue (a : Argument) : Bool := a.valueName?.isSome

/-- The argument as usage lines and messages name it. -/
def usage (a : Argument) : String :=
  match a, a.valueName? with
  | input, _ => "<INPUT>"
  | _, some value => "--" ++ a.longName ++ " <" ++ value ++ ">"
  | _, none => "--" ++ a.longName

def ofLong? (name : List Char) : Option Argument :=
  options.find? fun a => a.longName.toList == name

def ofLetter? (c : Char) : Option Argument := options.find? fun a => a.letter? == some c

/-- How similar a name has to be to be suggested. -/
def threshold : Text.Fraction := ⟨7, 10⟩

/-- The option whose long name is most similar to `name`, and similar enough. Of equally similar
ones it is the last. -/
def similar? (name : List Char) : Option Argument :=
  options.foldl (fun best? a =>
    let found := Text.similarity name a.longName.toList
    let bound := match best? with
      | some best => Text.similarity name (longName best).toList
      | none => threshold
    if best?.isSome then if found.below bound then best? else some a
    else if bound.below found then some a
    else none) none

end Argument

end EntityDiagram
