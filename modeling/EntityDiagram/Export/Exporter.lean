import EntityDiagram.Deck.Slide
import EntityDiagram.Drawing.Description
import EntityDiagram.Export.Layout
import EntityDiagram.Files.Store
import EntityDiagram.Image.Header

/-! # The exporter

An exporter draws models to image files and remembers the image of the last rendering, as long as
that rendering succeeded. A slide shows the remembered image as it is on disk at that moment; the
description of a model is written with or without an image.
-/

namespace EntityDiagram

/-- Writes a slide to a path. What becomes of the files is up to the writer. -/
abbrev SlideWriter := Slide → Path → Files → Except ExportError Unit × Files

namespace SlideWriter

/-- The whole content is put together before anything is written. -/
def assembled (assemble : Slide → Except ExportError Content) : SlideWriter :=
  fun slide path files =>
    match assemble slide with
    | .error e => (.error e, files)
    | .ok content =>
      match files.write path content with
      | .ok written => (.ok (), written)
      | .error cause => (.error (.io cause), files)

def deck : SlideWriter := assembled fun slide => .ok (.archive (Deck.parts slide))

/-- Writes nothing. -/
def silent : SlideWriter := fun _ _ files => (.ok (), files)

def refusing (e : ExportError) : SlideWriter := fun _ _ files => (.error e, files)

end SlideWriter

/-- What an operation answers and leaves behind: the files, its log, the graphs that it had laid out
and the slides that it handed to the slide writer. -/
structure Outcome (α : Type) where
  result : Except ExportError α
  files : Files
  log : List Record := []
  drawn : List Graph := []
  shown : List (Slide × Path) := []

def defaultTitle : String := "Entity-Relationship Diagram"

structure Exporter where
  title : String := defaultTitle
  image? : Option Path := none
  writer : SlideWriter := .deck

namespace Exporter

def unitsPerInch : Int := 914400

def pictureWidth : Int := 8 * unitsPerInch

def generating (image : Path) : Record where
  level := .info
  origin := .exporting
  message := "Generating diagram"
  fields := [("path", image.text)]

def graphBuilt (g : Graph) : Record where
  level := .debug
  origin := .exporting
  message := "Diagram graph built"
  fields := [("nodes", toString g.nodes.length), ("edges", toString g.edges.length)]

def saved (what : String) (path : Path) : Record where
  level := .info
  origin := .exporting
  message := what ++ " saved"
  fields := [("path", path.text)]

def generationFailed (e : ExportError) : Record where
  level := .error
  origin := .exporting
  message := "Diagram generation failed: " ++ e.message

def renderedImage (x : Exporter) : Except ExportError Path :=
  match x.image? with
  | some image => .ok image
  | none => .error .notRendered

/-- Draws `m` to the file `image`, which must then be there and hold something. -/
def writeImage (layout : Layout) (m : Model) (image : Path) (files : Files) : Outcome Unit :=
  let graph := Graph.ofModel m
  match graph.value with
  | .error name => { result := .error (.unknownEntity name), files, log := graph.log }
  | .ok g =>
    let drawing := layout g
    let log := graph.log ++ graphBuilt g :: drawing.log
    match drawing.value with
    | .error e => { result := .error e, files, log, drawn := [g] }
    | .ok data =>
      match files.write image (.bytes data) with
      | .error cause => { result := .error (.io cause), files, log, drawn := [g] }
      | .ok written =>
        if (written.size? image).any (0 < ·) then
          { result := .ok (), files := written, log, drawn := [g] }
        else { result := .error (.missingOutput image), files := written, log, drawn := [g] }

/-- Draws `m` to the image path of `output` and answers that path. -/
def tryRender (x : Exporter) (layout : Layout) (m : Model) (output : Path) (files : Files) :
    Exporter × Outcome Path :=
  let image := output.raster
  let outcome := writeImage layout m image files
  match outcome.result with
  | .ok () =>
    ({ x with image? := some image },
      { outcome with
        result := .ok image
        log := generating image :: outcome.log ++ [saved "Diagram" image] })
  | .error e =>
    ({ x with image? := none },
      { outcome with result := .error e, log := generating image :: outcome.log })

/-- Like `tryRender`, with the cause of a failure in the log only. -/
def render (x : Exporter) (layout : Layout) (m : Model) (output : Path) (files : Files) :
    Exporter × Outcome Bool :=
  let (next, outcome) := x.tryRender layout m output files
  match outcome.result with
  | .ok _ => (next, { outcome with result := .ok true })
  | .error e =>
    (next, { outcome with result := .ok false, log := outcome.log ++ [generationFailed e] })

def exportDescription (m : Model) (path : Path) (files : Files) : Outcome Unit :=
  match files.write path (.bytes (Text.encode (Description.text m))) with
  | .ok written => { result := .ok (), files := written, log := [saved "DOT file" path] }
  | .error cause => { result := .error (.io cause), files }

/-- The picture of an image on a slide: one inch from the edges, eight inches wide. The size of an
image that was read always has a height. -/
def picture (data : List UInt8) (size : ImageSize) : Picture where
  data := data
  left := unitsPerInch
  top := unitsPerInch
  width := pictureWidth
  height := (size.scaledHeight? pictureWidth).getD 0

def exportSlide (x : Exporter) (path : Path) (files : Files) : Outcome Unit :=
  match x.renderedImage with
  | .error e => { result := .error e, files }
  | .ok image =>
    match files.readBytes image with
    | .error cause => { result := .error (.io cause), files }
    | .ok data =>
      match ImageSize.read data with
      | .error e => { result := .error e, files }
      | .ok size =>
        let slide : Slide := { title := x.title, picture := picture data size }
        match x.writer slide path files with
        | (.ok (), written) =>
          { result := .ok (), files := written, log := [saved "Slide deck" path],
            shown := [(slide, path)] }
        | (.error e, left) => { result := .error e, files := left, shown := [(slide, path)] }

end Exporter

end EntityDiagram
