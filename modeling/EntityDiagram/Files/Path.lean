import EntityDiagram.Text.Split

/-! # Path names

A path is kept as written. Its file name is the last component, where empty components and `.` at
the end count for nothing; a path that ends in `..` or has no components has no file name. A file
name splits at its last dot into stem and extension, but a dot that begins the name belongs to the
stem.
-/

namespace EntityDiagram

structure Path where
  text : String
  deriving DecidableEq, Repr

namespace Path

open Text

def segments (p : Path) : List (List Char) := splitAt '/' p.text.toList

/-- Ends with a slash, or with slashes and single dots. -/
def trailing (segment : List Char) : Bool := segment.isEmpty || segment == ['.']

/-- The segments up to the last one that is neither empty nor a single dot. -/
def coreSegments (p : Path) : List (List Char) := (p.segments.reverse.dropWhile trailing).reverse

def fileName? (p : Path) : Option (List Char) :=
  match p.coreSegments.getLast? with
  | some name => if name = ['.', '.'] then none else some name
  | none => none

/-- What stands before and after the last dot, unless nothing stands before it. -/
def dotted? (name : List Char) : Option (List Char × List Char) :=
  match cutLast? '.' name with
  | some ([], _) => none
  | parts? => parts?

def extension? (p : Path) : Option (List Char) := do
  let name ← p.fileName?
  let (_, extension) ← dotted? name
  return extension

/-- The file name without its extension. -/
def stem (name : List Char) : List Char :=
  match dotted? name with
  | some (before, _) => before
  | none => name

/-- As many characters as the extension has are taken from the end, so that the path ends in the dot
before the extension, unless slashes stand behind the file name. -/
def withoutExtension (p : Path) : Path :=
  match p.extension? with
  | some extension =>
    ⟨String.ofList (p.text.toList.take (p.text.toList.length - extension.length))⟩
  | none => p

/-- Whatever follows the stem of the file name gives way to `extension`. -/
def setExtension (p : Path) (extension : String) : Path :=
  match p.fileName? with
  | some name =>
    let kept := p.coreSegments.dropLast ++ [stem name]
    ⟨String.ofList (List.intercalate ['/'] kept) ++ "." ++ extension⟩
  | none => p

/-- The old extension goes before the other one is set. A file name that is two dots by then is none
anymore, and such a path gets no extension. -/
def withExtension (p : Path) (extension : String) : Path := p.withoutExtension.setExtension extension

/-- Where an image of the base name `p` goes. An extension that is already there is not doubled. -/
def raster (p : Path) : Path :=
  if p.extension? = some "png".toList then p else ⟨p.text ++ ".png"⟩

end Path

end EntityDiagram
