import EntityDiagram.Text.Lowercase
import EntityDiagram.Text.Split

/-! # Display types

The type shown beside an attribute is guessed from its name: the first keyword that occurs in the
lower-case name decides.
-/

namespace EntityDiagram

inductive DataType where
  | integer
  | string
  | float
  | bool
  deriving DecidableEq, Repr

namespace DataType

def name : DataType → String
  | integer => "integer"
  | string => "string"
  | float => "float"
  | bool => "bool"

def keywords : List (String × DataType) :=
  [("id", integer), ("name", string), ("price", float), ("bool", bool), ("eligible", bool)]

def infer (field : String) : DataType :=
  let lower := Text.lowercase field.toList
  match keywords.find? fun (keyword, _) => Text.occurs keyword.toList lower with
  | some (_, type) => type
  | none => string

end DataType

end EntityDiagram
