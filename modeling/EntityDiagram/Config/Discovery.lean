import EntityDiagram.Config.Check
import EntityDiagram.Files.Store
import EntityDiagram.Log
import EntityDiagram.Toml.Reader

/-! # Finding a configuration

The configuration comes from one place: the file that is named, else the one in the working
directory, else the one of the platform, else the defaults. A file is there if something is seen at
its path. A file that decides but cannot be used is an error, whatever the other places hold.
-/

namespace EntityDiagram

inductive ConfigPlace where
  | named
  | working
  | platform
  deriving DecidableEq, Repr

def ConfigPlace.name : ConfigPlace → String
  | named => "explicit"
  | working => "local"
  | platform => "system"

inductive ConfigError where
  | missing (path : Path)
  | unreadable (cause : FileError)
  | malformed (path : Path) (reason : String)
  | invalid (path : Path) (problem : ConfigProblem)
  deriving DecidableEq, Repr

def ConfigError.message : ConfigError → String
  | missing path => "Missing configuration file: " ++ path.text
  | unreadable cause => cause.message
  | malformed path reason =>
    "Failed to parse TOML configuration in " ++ path.text ++ ": " ++ reason
  | invalid path problem => "Invalid configuration in " ++ path.text ++ ": " ++ problem.message

namespace Config

def configRecord (level : Level) (message : String) (fields : List (String × String)) : Record where
  level := level
  origin := .configuration
  message := message
  fields := fields

def loading (place : ConfigPlace) (path : Path) : Record :=
  configRecord .info "Loading configuration" [("source", place.name), ("path", path.text)]

def notFound (place : ConfigPlace) (path : Path) : Record :=
  configRecord .debug "Configuration file not found" [("source", place.name), ("path", path.text)]

def noFile : Record :=
  configRecord .debug "No configuration file found, using default configuration" []

def noPlatform : Record :=
  configRecord .debug "Could not determine platform-specific config directory" []

def workingPath : Path := ⟨"erdraft/config.toml"⟩

def ofText? (text : String) : Option Config := (Toml.read? text).bind (ofValue? true)

/-- The configuration in the file at `path`. -/
def readFile (view : FileView) (path : Path) : Except ConfigError Config :=
  if view.has path then
    match view.readText path with
    | .error cause => .error (.unreadable cause)
    | .ok text =>
      match ofText? text with
      | none => .error (.malformed path "TOML parse error")
      | some c =>
        match c.check with
        | .ok () => .ok c
        | .error problem => .error (.invalid path problem)
  else .error (.missing path)

/-- The first of the optional places that has a file. -/
def discover (view : FileView) (platform? : Option Path) : Logged (Option (ConfigPlace × Path)) := do
  if platform?.isNone then Logged.say noPlatform
  if view.has workingPath then return some (.working, workingPath)
  Logged.say (notFound .working workingPath)
  match platform? with
  | none => return none
  | some path =>
    if view.has path then return some (.platform, path)
    Logged.say (notFound .platform path)
    return none

def load (view : FileView) (platform? named? : Option Path) :
    Logged (Except ConfigError Config) := do
  let found? ← match named? with
    | some path => pure (some (ConfigPlace.named, path))
    | none => discover view platform?
  match found? with
  | none => do
    Logged.say noFile
    return .ok {}
  | some (place, path) => do
    Logged.say (loading place path)
    return readFile view path

end Config

end EntityDiagram
