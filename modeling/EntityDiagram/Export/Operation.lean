import EntityDiagram.Export.Exporter

/-! # Runs of an exporter

Everything that can be done with an exporter, and what may happen to the files in between, as one
type of operations. A run is a list of them.
-/

namespace EntityDiagram

inductive Operation where
  | render (layout : Layout) (m : Model) (output : Path)
  | tryRender (layout : Layout) (m : Model) (output : Path)
  | description (m : Model) (path : Path)
  | slide (path : Path)
  | title (title : String)
  | writer (writer : SlideWriter)
  | outside (change : Files → Files)

inductive Answer where
  | done
  | flag (succeeded : Bool)
  | image (path : Path)
  deriving DecidableEq, Repr

namespace Exporter

def answered {α : Type} (answer : α → Answer) (outcome : Outcome α) : Outcome Answer :=
  { outcome with result := outcome.result.map answer }

def perform (x : Exporter) (files : Files) : Operation → Exporter × Outcome Answer
  | .render layout m output =>
    let (next, outcome) := x.render layout m output files
    (next, answered .flag outcome)
  | .tryRender layout m output =>
    let (next, outcome) := x.tryRender layout m output files
    (next, answered .image outcome)
  | .description m path => (x, answered (fun _ => .done) (exportDescription m path files))
  | .slide path => (x, answered (fun _ => .done) (x.exportSlide path files))
  | .title title => ({ x with title }, { result := .ok .done, files })
  | .writer writer => ({ x with writer }, { result := .ok .done, files })
  | .outside change => (x, { result := .ok .done, files := change files })

/-- The exporter and the files after a run, and the outcome of each operation. -/
def run (x : Exporter) (files : Files) :
    List Operation → Exporter × Files × List (Outcome Answer)
  | [] => (x, files, [])
  | operation :: rest =>
    let (next, outcome) := x.perform files operation
    let (last, files, outcomes) := next.run outcome.files rest
    (last, files, outcome :: outcomes)

end Exporter

end EntityDiagram
