import EntityDiagram.Data.Fields
import EntityDiagram.Export.Exporter

/-! # Configuration

Where the text generator is reached and how long it may take, and the title of slides. Whatever a
file leaves out has its default, so an empty file is a configuration.
-/

namespace EntityDiagram

structure Service where
  baseUrl : String := "http://localhost:11434"
  model : String := "llama3"
  /-- In seconds. -/
  timeout : Nat := 120
  deriving DecidableEq, Repr

structure Config where
  service : Service := {}
  title : String := defaultTitle
  deriving DecidableEq, Repr

namespace Service

/-- Where requests go: slashes that end the base do not count. -/
def endpoint (s : Service) : String :=
  String.ofList (s.baseUrl.toList.reverse.dropWhile (· = '/')).reverse ++ "/api/chat"

def ofValue? (surplus : Bool) (value : Value) : Option Service :=
  match value.fields? ["base_url", "model", "timeout_secs"] surplus with
  | some [baseUrl?, model?, timeout?] => do
    let standard : Service := {}
    let baseUrl ← Value.orDefault Value.string? standard.baseUrl baseUrl?
    let model ← Value.orDefault Value.string? standard.model model?
    let timeout ← Value.orDefault Value.word? standard.timeout timeout?
    return { baseUrl, model, timeout }
  | _ => none

end Service

namespace Config

def titleOfValue? (surplus : Bool) (value : Value) : Option String :=
  match value.fields? ["title"] surplus with
  | some [title?] => Value.orDefault Value.string? defaultTitle title?
  | _ => none

def ofValue? (surplus : Bool) (value : Value) : Option Config :=
  match value.fields? ["generator", "slide"] surplus with
  | some [service?, title?] => do
    let service ← Value.orDefault (Service.ofValue? surplus) {} service?
    let title ← Value.orDefault (titleOfValue? surplus) defaultTitle title?
    return { service, title }
  | _ => none

end Config

end EntityDiagram
