import EntityDiagram.Config.Discovery
import EntityDiagram.Export.Error
import EntityDiagram.Generator.Error
import EntityDiagram.Text.Quoted

/-! # Failures of a run

What a run can fail with, how each failure is worded, which code it has and what help there is.
-/

namespace EntityDiagram

inductive Failure where
  | io (cause : FileError)
  | config (reason : String)
  | generator (cause : GenerateError)
  | exporter (cause : ExportError)
  deriving DecidableEq, Repr

namespace Failure

def ofConfig : ConfigError → Failure
  | .unreadable cause => io cause
  | e => config e.message

def message : Failure → String
  | io cause => "I/O error: " ++ cause.message
  | config reason => "Configuration error: " ++ reason
  | generator cause => "Text generator error: " ++ cause.message
  | exporter cause => "Export error: " ++ cause.message

def exportCode : ExportError → String
  | .unknownEntity _ => "unknown_entity"
  | .notRendered => "not_rendered"
  | .missingOutput _ => "missing_output"
  | .render _ => "render"
  | .image _ => "image"
  | .archive _ => "archive"
  | .io _ => "io"

def code : Failure → String
  | io _ => "erdraft::io"
  | config _ => "erdraft::config"
  | generator _ => "erdraft::generate"
  | exporter cause => "erdraft::export::" ++ exportCode cause

def help? : Failure → Option String
  | generator (.request _) | generator (.unavailable _) =>
    some "is the Ollama server running? Use --structured to skip the text generator"
  | exporter (.unknownEntity _) =>
    some "declare every relationship endpoint with an `Entity:` line"
  | exporter (.render _) | exporter (.missingOutput _) =>
    some "make sure Graphviz is installed and `dot` is on PATH"
  | _ => none

/-- The messages of the causes, the nearest first. -/
def causes : Failure → List String
  | io cause => [cause.message]
  | config _ => []
  | generator cause => [cause.message]
  | exporter (.io cause) => [(ExportError.io cause).message, cause.message]
  | exporter cause => [cause.message]

open Text in
def displayGenerate : GenerateError → String
  | .request reason => "Request(" ++ quoted reason ++ ")"
  | .response status body =>
    "Response \x7b status: " ++ toString status ++ ", body: " ++ quoted body ++ " \x7d"
  | .decode reason => "Decode(" ++ quoted reason ++ ")"
  | .unavailable reason => "Unavailable(" ++ quoted reason ++ ")"

open Text in
def displayExport : ExportError → String
  | .unknownEntity name => "UnknownEntity \x7b name: " ++ quoted name ++ " \x7d"
  | .notRendered => "NotRendered"
  | .missingOutput path => "MissingOutput(" ++ quoted path.text ++ ")"
  | .render reason => "Render(" ++ quoted reason ++ ")"
  | .image reason => "Image(" ++ quoted reason ++ ")"
  | .archive reason => "Archive(" ++ quoted reason ++ ")"
  | .io cause => "Io(" ++ cause.display ++ ")"

open Text in
/-- The failure with every field named. -/
def display : Failure → String
  | io cause => "Io(" ++ cause.display ++ ")"
  | config reason => "Config(" ++ quoted reason ++ ")"
  | generator cause => "Generate(" ++ displayGenerate cause ++ ")"
  | exporter cause => "Export(" ++ displayExport cause ++ ")"

end Failure

end EntityDiagram
