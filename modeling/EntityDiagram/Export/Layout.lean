import EntityDiagram.Drawing.Digraph
import EntityDiagram.Export.Error

/-! # Layout

A layout turns a graph into the bytes of an image. The built-in one hands the graph to a tool as a
digraph and takes what the tool prints; a tool that ends with an error, or is not there, is a
failure.
-/

namespace EntityDiagram

abbrev Layout := Graph → Logged (Except ExportError (List UInt8))

/-- How a run of the layout tool ends, and what it prints. -/
structure ToolRun where
  exit : Int := 0
  complaint : String := ""
  output : List UInt8 := []
  deriving DecidableEq, Repr

inductive LayoutTool where
  | missing
  | present (run : String → ToolRun)

namespace LayoutTool

def invoked (d : Digraph) : Record where
  level := .debug
  origin := .layout
  message := "Invoking graphviz"
  fields := [("statements", toString d.statements.length)]

def failure (reason : String) : ExportError := .render ("graphviz failed: " ++ reason)

/-- What the tool is given for a graph. -/
def input (g : Graph) : String := (Digraph.ofGraph g).render

def result (tool : LayoutTool) (input : String) : Except ExportError (List UInt8) :=
  match tool with
  | missing => .error (failure FileError.notFound.message)
  | present run =>
    let ended := run input
    if ended.exit = 0 then .ok ended.output else .error (failure ended.complaint)

def layout (tool : LayoutTool) : Layout := fun g => do
  Logged.say (invoked (.ofGraph g))
  return tool.result (input g)

end LayoutTool

end EntityDiagram
