import EntityDiagram.Files.Error
import EntityDiagram.Files.Path

/-! # Why an export fails

The causes an export can have. A slide that is asked for before any image has been drawn fails
without a look at the files.
-/

namespace EntityDiagram

inductive ExportError where
  | unknownEntity (name : String)
  | notRendered
  | missingOutput (path : Path)
  | render (reason : String)
  | image (reason : String)
  | archive (reason : String)
  | io (cause : FileError)
  deriving DecidableEq, Repr

namespace ExportError

def message : ExportError → String
  | unknownEntity name => "relationship references unknown entity `" ++ name ++ "`"
  | notRendered => "diagram must be rendered before exporting a slide"
  | missingOutput path => "rendered output not found at " ++ path.text
  | render reason => "render failed: " ++ reason
  | image reason => "invalid image: " ++ reason
  | archive reason => "slide archive error: " ++ reason
  | io cause => "I/O error: " ++ cause.message

end ExportError

end EntityDiagram
