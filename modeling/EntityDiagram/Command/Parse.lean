import EntityDiagram.Command.Arguments
import EntityDiagram.Command.Option

/-! # Reading the command line

Tokens are read from left to right. An option that takes a value and has none attached waits for
the next token that does not look like an option; what has been collected is settled when the next
argument begins. After two dashes nothing is an option any more.
-/

namespace EntityDiagram

inductive Advice where
  | none
  /-- The token can be given as a value after two dashes. -/
  | asValue
  | similar (option : Argument)
  deriving DecidableEq, Repr

/-- Why a command line is not carried out. The arguments that were used so far are part of the
message. -/
inductive UsageError where
  | noValue (option : Argument)
  | repeated (option : Argument)
  | surplusValue (option : Argument) (value : String) (used : List Argument)
  | unknown (token : String) (advice : Advice) (used : List Argument)
  | missingInput (used : List Argument)
  | helpWanted
  | versionWanted
  deriving DecidableEq, Repr

namespace CommandLine

/-- What has been read so far: the settled arguments with their values, the one that is still open
and whether it waits for a value, and whether there is an input. -/
structure Progress where
  settled : List (Argument × String) := []
  pending? : Option (Argument × Option String) := none
  waiting : Bool := false
  hasInput : Bool := false
  deriving Repr

namespace Progress

def used (p : Progress) : List Argument := (p.settled.map (·.1)).eraseDups

def isUsed (p : Progress) (a : Argument) : Bool := p.settled.any (·.1 == a)

/-- Settles an argument. None is given twice. -/
def record (p : Progress) (a : Argument) (value : String) : Except UsageError Progress :=
  if p.isUsed a then .error (.repeated a)
  else .ok { p with settled := p.settled ++ [(a, value)] }

/-- Settles the open argument. -/
def settle (p : Progress) : Except UsageError Progress :=
  match p.pending? with
  | none => .ok { p with waiting := false }
  | some (a, some value) => { p with pending? := none, waiting := false }.record a value
  | some (a, none) => .error (.noValue a)

/-- The arguments used so far for a message about something else. An argument that was repeated does
not count as used. -/
def usedAfter (p : Progress) : List Argument :=
  match p.settle with
  | .ok settled => settled.used
  | .error (.repeated a) => p.used.filter (· ≠ a)
  | .error _ => p.used

/-- An option without a value. -/
def flag (p : Progress) (a : Argument) : Except UsageError Progress := do
  let p ← p.settle
  match a with
  | .help => .error .helpWanted
  | .version => .error .versionWanted
  | _ => p.record a ""

/-- An option with a value, which is attached or still to come. -/
def valued (p : Progress) (a : Argument) (attached? : Option String) :
    Except UsageError Progress := do
  let p ← p.settle
  match attached? with
  | some value => p.record a value
  | none => .ok { p with pending? := some (a, none), waiting := true }

/-- A token that begins with two dashes: the name and what follows an equals sign. -/
def long (p : Progress) (name : List Char) (attached? : Option String) :
    Except UsageError Progress :=
  match Argument.ofLong? name with
  | some a =>
    if a.takesValue then p.valued a attached?
    else
      match attached? with
      | some value => .error (.surplusValue a value (p.used ++ [a]).eraseDups)
      | none => p.flag a
  | none =>
    let token := "--" ++ String.ofList name
    match Argument.similar? name with
    | some a => .error (.unknown token (.similar a) (p.usedAfter ++ [a]).eraseDups)
    | none => .error (.unknown token .asValue p.usedAfter)

/-- The value that is attached to a letter. -/
def attachedToLetter? : List Char → Option String
  | [] => none
  | '=' :: rest => some (String.ofList rest)
  | rest => some (String.ofList rest)

/-- The letters behind one dash. What follows the letter of an option with a value is that value. -/
def letters (p : Progress) : List Char → Except UsageError Progress
  | [] => .ok p
  | c :: rest =>
    match Argument.ofLetter? c with
    | none => .error (.unknown (String.ofList ['-', c]) .asValue [])
    | some a =>
      if a.takesValue then p.valued a (attachedToLetter? rest)
      else do
        let p ← p.flag a
        p.letters rest

/-- The only argument that is not an option. -/
def positional (p : Progress) (token : String) (advice : Advice) : Except UsageError Progress :=
  if p.hasInput then .error (.unknown token advice [])
  else do
    let p ← p.settle
    .ok { p with pending? := some (.input, some token), hasInput := true }

/-- A token that is a value: of the option that waits for one, or by its position. -/
def value (p : Progress) (token : String) (advice : Advice) : Except UsageError Progress :=
  match p.waiting, p.pending? with
  | true, some (a, _) => .ok { p with pending? := some (a, some token), waiting := false }
  | _, _ => p.positional token advice

def token (p : Progress) (token : String) : Except UsageError Progress :=
  match token.toList with
  | '-' :: '-' :: '=' :: _ => p.value token .asValue
  | '-' :: '-' :: rest =>
    let name := rest.takeWhile (· ≠ '=')
    match rest.dropWhile (· ≠ '=') with
    | _ :: attached => p.long name (some (String.ofList attached))
    | [] => p.long name none
  | '-' :: c :: rest => p.letters (c :: rest)
  | _ => p.value token .none

def positionals (p : Progress) : List String → Except UsageError Progress
  | [] => .ok p
  | t :: rest => do
    let p ← p.positional t .none
    p.positionals rest

def tokens (p : Progress) : List String → Except UsageError Progress
  | [] => .ok p
  | t :: rest =>
    if t = "--" then p.positionals rest
    else do
      let p ← p.token t
      p.tokens rest

def value? (p : Progress) (a : Argument) : Option String :=
  (p.settled.find? (·.1 == a)).map (·.2)

/-- The arguments, once everything is settled. -/
def finish (p : Progress) : Except UsageError Arguments := do
  let p ← p.settle
  match p.value? .input with
  | none => .error (.missingInput p.used)
  | some input =>
    let standard : Arguments := { input }
    .ok {
      input := input
      output := (p.value? .output).getD standard.output
      config? := p.value? .config
      structured := p.isUsed .structured
      dot := p.isUsed .dot
      slide := p.isUsed .slide
      logLevel := (p.value? .logLevel).getD standard.logLevel }

end Progress

def parse (argv : List String) : Except UsageError Arguments := do
  let p ← Progress.tokens {} argv
  p.finish

end CommandLine

end EntityDiagram
