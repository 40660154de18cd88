import EntityDiagram.Command.Run
import EntityDiagram.Command.Usage
import EntityDiagram.Report.Render
import EntityDiagram.Text.Plain

/-! # The program

From the command line to the exit code and everything that is printed. Records of the log go to the
error stream as far as the chosen level lets them through, one after the other; the report of a
failure is the last of them.
-/

namespace EntityDiagram

/-- How detailed the log is; without a level there is none. -/
structure Verbosity where
  level? : Option Level
  deriving DecidableEq, Repr

namespace Verbosity

def all : List (String × Verbosity) :=
  [("off", ⟨none⟩), ("error", ⟨some .error⟩), ("warn", ⟨some .warn⟩), ("info", ⟨some .info⟩),
    ("debug", ⟨some .debug⟩), ("trace", ⟨some .trace⟩)]

/-- Names are read in upper and lower case. -/
def ofName? (name : String) : Option Verbosity :=
  (all.find? fun (known, _) => known.toList == name.toList.map Char.toLower).map (·.2)

def name (v : Verbosity) : String :=
  match v.level? with
  | none => "Off"
  | some .error => "Error"
  | some .warn => "Warn"
  | some .info => "Info"
  | some .debug => "Debug"
  | some .trace => "Trace"

def shows (v : Verbosity) (r : Record) : Bool :=
  match v.level? with
  | none => false
  | some level => r.level.detail ≤ level.detail

end Verbosity

namespace Record

def padded (name : String) : String := name ++ "".pushn ' ' (5 - name.length)

/-- Lines after the first one of a message are indented. -/
def indented (message : String) : String :=
  String.ofList (message.toList.flatMap fun c => if c = '\n' then "\n    ".toList else [c])

/-- The record as it is printed, without the time. -/
def line (r : Record) : String :=
  Text.plain <| "[" ++ padded r.level.name ++ " " ++ r.origin.name ++ "] " ++ indented r.message ++
    String.join (r.fields.map fun (key, value) => " " ++ key ++ "=" ++ value) ++ "\n"

end Record

/-- Everything that is left of the program when it has ended. -/
structure Ending where
  exitCode : Nat
  output : String := ""
  errors : String := ""
  files : Files
  drawn : List Graph := []
  posts : List Post := []

namespace Program

def programRecord (level : Level) (message : String) (fields : List (String × String)) :
    Record where
  level := level
  origin := .program
  message := message
  fields := fields

def starting (v : Verbosity) : Record :=
  programRecord .info "Starting erdraft" [("log_level", v.name)]

def argumentsRead (a : Arguments) : Record :=
  programRecord .debug "Parsed arguments" [("args", a.display)]

/-- The last record: the report of a failure, or that all went well. -/
def ended : Except Failure Unit → Record
  | .ok () => programRecord .info "Completed successfully" []
  | .error f => programRecord .error f.report []

def invalidLevel (name : String) : String :=
  "Invalid log level: " ++ name ++ ". Using 'warn' instead.\n"

def usageEnding (files : Files) (e : UsageError) : Ending :=
  { exitCode := e.exitCode
    output := if e.isMistake then "" else Text.plain e.text
    errors := if e.isMistake then Text.plain e.text else ""
    files := files }

def execute (s : Setting) (a : Arguments) : Ending :=
  let (v, complaint) := match Verbosity.ofName? a.logLevel with
    | some v => (v, "")
    | none => (⟨some .warn⟩, invalidLevel a.logLevel)
  let finish := Command.run s a
  let log := starting v :: argumentsRead a :: finish.log ++ [ended finish.result]
  { exitCode := match finish.result with | .ok () => 0 | .error _ => 1
    errors := complaint ++ String.join ((log.filter v.shows).map Record.line)
    files := finish.files
    drawn := finish.drawn
    posts := finish.posts }

def run (s : Setting) (argv : List String) : Ending :=
  match CommandLine.parse argv with
  | .ok a => execute s a
  | .error e => usageEnding s.files e

/-- The paths that a run may read or write. -/
def touched (platform? : Option Path) (argv : List String) : List Path :=
  match CommandLine.parse argv with
  | .error _ => []
  | .ok a =>
    let image := (Path.mk a.output).raster
    let configs := match a.config? with
      | some path => [Path.mk path]
      | none => Config.workingPath :: platform?.toList
    ⟨a.input⟩ :: configs ++ [image, image.withExtension "dot", image.withExtension "pptx"]

end Program

end EntityDiagram
