import EntityDiagram.Command.Program

/-! # The command

The files that a run can touch are read into a store, the run takes place on the store, and the
files that it changed are written back. This program starts no other program and opens no
connection: the layout tool counts as missing and the chat service as unreachable.
-/

namespace EntityDiagram.Shell

def absolute (here : String) (p : String) : String :=
  if p.startsWith "/" then p else here ++ "/" ++ p

/-- The beginnings of a path, each as a text and as a location. -/
def ancestors (p : String) : List (String × Location) :=
  let names := (p.splitOn "/").filter (· ≠ "")
  (List.range (names.length + 1)).map fun n =>
    ("/" ++ "/".intercalate (names.take n), names.take n)

/-- The system's number of the error in which `action` ends, or zero. -/
def code {α : Type} (action : IO α) : BaseIO UInt32 := do
  match ← action.toBaseIO with
  | .ok _ => return 0
  | .error (.inappropriateType _ number _) | .error (.permissionDenied _ number _) => return number
  | .error _ => return 1

def denied : UInt32 := 13

def isDirectory : UInt32 := 21

/-- What stands at a location, as far as the system shows it. What is in a directory is asked for as
if to be written, which fails for every directory, but in another way if it may not be searched. -/
def loadNode (files : Files) (text : String) (location : Location) : IO Files := do
  let outside ← code (IO.FS.readBinFile text)
  let inside ← code (IO.FS.Handle.mk (text ++ "/.") .append)
  let readable := outside ≠ denied
  if outside = isDirectory ∨ inside = isDirectory ∨ inside = denied then
    return files.setNode location (.directory { readable, searchable := inside ≠ denied })
  else if outside = 0 ∨ outside = denied then
    let data ← if readable then IO.FS.readBinFile text else pure .empty
    let writable := (← code (IO.FS.Handle.mk text .append)) ≠ denied
    return files.setNode location (.file (.bytes data.toList) { readable, writable })
  else return files

def load (here : String) (paths : List Path) : IO Files := do
  let mut files : Files := { here := (here.splitOn "/").filter (· ≠ "") }
  for p in paths do
    for (text, location) in ancestors (absolute here p.text) do
      files ← loadNode files text location
  return files

def content? (files : Files) (p : Path) : Option Content :=
  match files.look p with
  | .ok (.file content _) => some content
  | _ => none

def changed (before after : Files) (p : Path) : Option Content :=
  if content? after p = content? before p then none else content? after p

def store (here : String) (paths : List Path) (before after : Files) : IO Unit := do
  for p in paths do
    match changed before after p with
    | some content => IO.FS.writeBinFile (absolute here p.text) ⟨content.toBytes.toArray⟩
    | none => pure ()

/-- Where the platform keeps the configuration: below the directory that is named for it, else
below the home directory. -/
def platform : IO (Option Path) := do
  match ← IO.getEnv "XDG_CONFIG_HOME", ← IO.getEnv "HOME" with
  | some base, _ => return some ⟨base ++ "/erdraft/config.toml"⟩
  | none, some home => return some ⟨home ++ "/.config/erdraft/config.toml"⟩
  | none, none => return none

def run (argv : List String) : IO UInt32 := do
  let here := (← IO.currentDir).toString
  let platform? ← platform
  let paths := Program.touched platform? argv
  let before ← load here paths
  let ending := Program.run { files := before, platform? } argv
  store here paths before ending.files
  (← IO.getStdout).putStr ending.output
  (← IO.getStderr).putStr ending.errors
  return ending.exitCode.toUInt32

end EntityDiagram.Shell

def main (argv : List String) : IO UInt32 := EntityDiagram.Shell.run argv
