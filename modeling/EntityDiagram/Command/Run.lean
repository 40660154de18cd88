import EntityDiagram.Command.Arguments
import EntityDiagram.Export.Exporter
import EntityDiagram.Generator.Service
import EntityDiagram.Report.Failure
import EntityDiagram.Source.Structured

/-! # A run of the command

A run reads the input, turns it into a model, draws the image and then writes what else was asked
for next to it. What goes wrong with the latter is logged and nothing more.
-/

namespace EntityDiagram

/-- What a run finds around it. -/
structure Setting where
  files : Files := {}
  /-- Where the platform keeps the configuration. -/
  platform? : Option Path := none
  tool : LayoutTool := .missing
  /-- A client for the chat service, or why none can be built. -/
  connect : Limits → Except String Client := fun _ => .ok .offline

/-- What a run comes to: its result, the files it leaves, its log, the graphs it had laid out, the
slides it handed to the slide writer and the requests it made. -/
structure Finish where
  result : Except Failure Unit
  files : Files
  log : List Record := []
  drawn : List Graph := []
  shown : List (Slide × Path) := []
  posts : List Post := []

namespace Command

def commandRecord (level : Level) (message : String) (fields : List (String × String)) :
    Record where
  level := level
  origin := .command
  message := message
  fields := fields

def processing (a : Arguments) : Record :=
  commandRecord .info "Processing description"
    [("input_path", a.input), ("output_path", a.output)]

def nothingFound : Record :=
  commandRecord .warn "No entities or relationships found; the text generator may have failed" []

def imageExported (image : Path) : Record :=
  commandRecord .info "PNG exported successfully" [("output_file", image.text)]

def secondaryWritten (format : String) (path : Path) : Record :=
  commandRecord .info "Secondary export written" [("format", format), ("path", path.text)]

def secondaryFailed (format : String) (path : Path) (e : ExportError) : Record :=
  commandRecord .error ("Failed to export " ++ format ++ " to " ++ path.text ++ ": " ++ e.message)
    []

/-- The model that the input stands for. A client is only built, and the chat service only asked,
for text that is not structured. -/
def readModel (s : Setting) (c : Config) (structured : Bool) (text : String) :
    Except GenerateError (Sent (Logged Model)) :=
  if structured then .ok { value := Structured.read text }
  else
    match s.connect c.service.limits with
    | .error reason => .error (.unavailable reason)
    | .ok client => .ok ((Generator.extract c.service.generate text).run client)

/-- An export that does not decide the result. Its failure is one more record. -/
def secondary (format : String) (path : Path) (outcome : Outcome Unit) : Outcome Unit :=
  match outcome.result with
  | .ok () => { outcome with log := outcome.log ++ [secondaryWritten format path] }
  | .error e => { outcome with log := outcome.log ++ [secondaryFailed format path e] }

def writeDescription (a : Arguments) (m : Model) (image : Path) (files : Files) : Outcome Unit :=
  if a.dot then
    let path := image.withExtension "dot"
    secondary "DOT" path (Exporter.exportDescription m path files)
  else { result := .ok (), files }

def writeSlide (a : Arguments) (x : Exporter) (image : Path) (files : Files) : Outcome Unit :=
  if a.slide then
    let path := image.withExtension "pptx"
    secondary "PPTX" path (x.exportSlide path files)
  else { result := .ok (), files }

/-- Draws the image, then writes the other exports. -/
def exportAll (s : Setting) (a : Arguments) (c : Config) (m : Model) : Finish :=
  let x : Exporter := { title := c.title }
  let (x, outcome) := x.tryRender s.tool.layout m ⟨a.output⟩ s.files
  match outcome.result with
  | .error e =>
    { result := .error (.exporter e), files := outcome.files, log := outcome.log
      drawn := outcome.drawn }
  | .ok image =>
    let description := writeDescription a m image outcome.files
    let slide := writeSlide a x image description.files
    { result := .ok (), files := slide.files, drawn := outcome.drawn, shown := slide.shown
      log := outcome.log ++ imageExported image :: description.log ++ slide.log }

def emptyWarning (m : Model) : List Record := if m.isEmpty then [nothingFound] else []

def run (s : Setting) (a : Arguments) : Finish :=
  let config := Config.load s.files.view s.platform? (a.config?.map Path.mk)
  let log := processing a :: config.log
  match config.value with
  | .error e => { result := .error (.ofConfig e), files := s.files, log }
  | .ok c =>
    match s.files.readText ⟨a.input⟩ with
    | .error cause => { result := .error (.io cause), files := s.files, log }
    | .ok text =>
      match readModel s c a.structured text with
      | .error e => { result := .error (.generator e), files := s.files, log }
      | .ok sent =>
        let model := sent.value
        let finish := exportAll s a c model.value
        { finish with
          log := log ++ model.log ++ emptyWarning model.value ++ finish.log
          posts := sent.posts }

end Command

end EntityDiagram
