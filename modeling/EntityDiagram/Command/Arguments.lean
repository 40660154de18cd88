import EntityDiagram.Text.Quoted

/-! # Arguments of the command

What the command is told: the input, the base name of what it writes, and how to go about it.
-/

namespace EntityDiagram

structure Arguments where
  input : String
  output : String := "er_diagram"
  config? : Option String := none
  structured : Bool := false
  dot : Bool := false
  slide : Bool := false
  logLevel : String := "info"
  deriving DecidableEq, Repr

open Text in
/-- The arguments with every one of them named. -/
def Arguments.display (a : Arguments) : String :=
  let config := match a.config? with
    | some path => "Some(" ++ quoted path ++ ")"
    | none => "None"
  "Args \x7b input: " ++ quoted a.input ++ ", output: " ++ quoted a.output ++ ", config: " ++
    config ++ ", structured: " ++ toString a.structured ++ ", dot: " ++ toString a.dot ++
    ", slide: " ++ toString a.slide ++ ", log_level: " ++ quoted a.logLevel ++ " \x7d"

end EntityDiagram
