import EntityDiagram.Config.Basic
import EntityDiagram.Text.Blank
import EntityDiagram.Text.Split

/-! # Checks of a configuration

A configuration that was read is refused when the text generator cannot work with it. The first
problem found is the one reported.
-/

namespace EntityDiagram

inductive ConfigProblem where
  | noTimeout
  | noModel
  | noHost (baseUrl : String)
  deriving DecidableEq, Repr

namespace ConfigProblem

def message : ConfigProblem → String
  | noTimeout => "generator.timeout_secs must be greater than 0"
  | noModel => "generator.model must not be empty"
  | noHost baseUrl =>
    "generator.base_url `" ++ baseUrl ++ "` must start with http:// or https:// and name a host"

end ConfigProblem

namespace Config

def schemes : List String := ["http://", "https://"]

/-- What follows the scheme of `baseUrl`. -/
def afterScheme? (baseUrl : String) : Option (List Char) :=
  schemes.findSome? fun scheme => Text.dropStart? scheme.toList baseUrl.toList

def namesHost (baseUrl : String) : Bool :=
  match afterScheme? baseUrl with
  | some rest => !rest.isEmpty
  | none => false

def check (c : Config) : Except ConfigProblem Unit :=
  if c.service.timeout = 0 then .error .noTimeout
  else if (Text.trim c.service.model.toList).isEmpty then .error .noModel
  else if namesHost c.service.baseUrl then .ok ()
  else .error (.noHost c.service.baseUrl)

end Config

end EntityDiagram
