import EntityDiagram.Files.Archive
import EntityDiagram.Files.Error
import EntityDiagram.Files.Path

/-! # Files

A store of directories and files, each at its location below the root and with the rights that a
program has there, and a working directory from which relative paths start. There are no links. A
path leads to a location step by step: every directory on the way must exist and may be searched,
`.` stays and `..` goes up. What stands at the location can be seen then, whether or not it may be
read. A write either puts the whole content at the location or changes nothing.
-/

namespace EntityDiagram

/-- An archive is kept as its parts. -/
inductive Content where
  | bytes (data : List UInt8)
  | archive (parts : List Part)
  deriving DecidableEq, Repr

namespace Content

def toBytes : Content → List UInt8
  | bytes data => data
  | archive parts => Archive.encode parts

end Content

/-- The names that lead from the root to a file or directory. -/
abbrev Location := List String

/-- What a program may do with a file or a directory. -/
structure Access where
  readable : Bool := true
  writable : Bool := true
  searchable : Bool := true
  deriving DecidableEq, Repr

inductive FileNode where
  | directory (access : Access := {})
  | file (content : Content) (access : Access := {})
  deriving DecidableEq, Repr

def FileNode.access : FileNode → Access
  | directory access | file _ access => access

structure Files where
  nodes : List (Location × FileNode) := []
  here : Location := []
  root : Access := {}
  deriving DecidableEq, Repr

namespace Files

/-- The root is always there. -/
def node? (files : Files) : Location → Option FileNode
  | [] => some (.directory files.root)
  | location => (files.nodes.find? (·.1 = location)).map (·.2)

def setNode (files : Files) (location : Location) (node : FileNode) : Files :=
  { files with nodes := (location, node) :: files.nodes.filter (·.1 ≠ location) }

/-- What may be done with what stands at a location, if anything does. -/
def rights (files : Files) (location : Location) : Access :=
  (files.node? location).elim {} FileNode.access

def removeNode (files : Files) (location : Location) : Files :=
  { files with nodes := files.nodes.filter (·.1 ≠ location) }

/-- The longest name that the system takes, in bytes. -/
def longestName : Nat := 255

/-- The longest path that the system takes, in bytes. -/
def longestPath : Nat := 4095

/-- A step can only be made from a directory, and with a name only from one that may be searched. -/
def step (files : Files) (location : Location) (segment : String) : Except FileError Location :=
  match files.node? location with
  | none => .error .notFound
  | some (.file _ _) => .error .notDirectory
  | some (.directory access) =>
    if segment = "" then .ok location
    else if access.searchable = false then .error .permissionDenied
    else if segment = "." then .ok location
    else if segment = ".." then .ok location.dropLast
    else if longestName < segment.utf8ByteSize then .error .nameTooLong
    else .ok (location ++ [segment])

def walk (files : Files) : Location → List String → Except FileError Location
  | location, [] => .ok location
  | location, segment :: rest =>
    match files.step location segment with
    | .ok next => files.walk next rest
    | .error e => .error e

def start (files : Files) (p : Path) : Location :=
  if p.text.toList.head? = some '/' then [] else files.here

def checkName (p : Path) : Except FileError Unit :=
  if p.text.toList.contains '\x00' then .error .nulInName
  else if p.text = "" then .error .notFound
  else if longestPath < p.text.utf8ByteSize then .error .nameTooLong
  else .ok ()

def names (p : Path) : List String := p.segments.map String.ofList

/-- Where `p` leads. Everything but the last name must exist and may be searched. -/
def locate (files : Files) (p : Path) : Except FileError Location :=
  match checkName p with
  | .ok () => files.walk (files.start p) (names p)
  | .error e => .error e

/-- What `p` leads to. It need not be readable. -/
def look (files : Files) (p : Path) : Except FileError FileNode :=
  match files.locate p with
  | .ok location =>
    match files.node? location with
    | some node => .ok node
    | none => .error .notFound
  | .error e => .error e

def has (files : Files) (p : Path) : Bool :=
  match files.look p with
  | .ok _ => true
  | .error _ => false

/-- The number of bytes of the file that `p` leads to. -/
def size? (files : Files) (p : Path) : Option Nat :=
  match files.look p with
  | .ok (.file content _) => some content.toBytes.length
  | _ => none

def read (files : Files) (p : Path) : Except FileError Content :=
  match files.look p with
  | .ok node =>
    if node.access.readable then
      match node with
      | .file content _ => .ok content
      | .directory _ => .error .isDirectory
    else .error .permissionDenied
  | .error e => .error e

def readBytes (files : Files) (p : Path) : Except FileError (List UInt8) :=
  (files.read p).map Content.toBytes

def readText (files : Files) (p : Path) : Except FileError String :=
  match files.readBytes p with
  | .ok data =>
    match Text.decode? data with
    | some cs => .ok (String.ofList cs)
    | none => .error .notText
  | .error e => .error e

/-- The names up to the last one that is not empty, and whether empty ones follow. -/
def named (p : Path) : List String × Bool :=
  let kept := ((names p).reverse.dropWhile (· = "")).reverse
  (kept, kept.length < (names p).length)

/-- Where a name in a directory may be written: neither at a directory nor with a slash behind. What
may be written must be a file that is there, or else the directory. -/
def entry (files : Files) (directory : Location) (name : String) (slashed : Bool) :
    Except FileError Location :=
  match files.step directory "." with
  | .error e => .error e
  | .ok directory =>
    if slashed then .error .isDirectory
    else
      match files.step directory name with
      | .error e => .error e
      | .ok location =>
        match files.node? location with
        | some (.directory _) => .error .isDirectory
        | some (.file _ access) => if access.writable then .ok location else .error .permissionDenied
        | none =>
          if (files.rights directory).writable then .ok location else .error .permissionDenied

/-- Where a write to `p` goes. -/
def target (files : Files) (p : Path) : Except FileError Location :=
  match checkName p with
  | .error e => .error e
  | .ok () =>
    let (kept, slashed) := named p
    match kept.getLast? with
    | none => .error .isDirectory
    | some name =>
      match files.walk (files.start p) kept.dropLast with
      | .ok directory => files.entry directory name slashed
      | .error e => .error e

/-- A file that is written keeps the rights that it had. -/
def write (files : Files) (p : Path) (content : Content) : Except FileError Files :=
  match files.target p with
  | .ok location => .ok (files.setNode location (.file content (files.rights location)))
  | .error e => .error e

/-- Only files are removed, and only from directories that may be written. -/
def remove (files : Files) (p : Path) : Except FileError Files :=
  match files.locate p with
  | .error e => .error e
  | .ok location =>
    match files.node? location with
    | none => .error .notFound
    | some node =>
      if (files.rights location.dropLast).writable then
        match node with
        | .file _ _ => .ok (files.removeNode location)
        | .directory _ => .error .isDirectory
      else .error .permissionDenied

/-- Makes the directories that a walk misses, as far as it gets. The flag says whether it got to the
end. -/
def makeWalk (files : Files) : Location → List String → Files × Bool
  | location, [] =>
    match files.node? location with
    | some (.directory _) => (files, true)
    | _ => (files, false)
  | location, segment :: rest =>
    match files.step location segment with
    | .error _ => (files, false)
    | .ok next =>
      match files.node? next with
      | some _ => files.makeWalk next rest
      | none =>
        if (files.rights location).writable then (files.setNode next .directory).makeWalk next rest
        else (files, false)

def makeDirectories (files : Files) (p : Path) : Files × Bool :=
  if p.text = "" then (files, true)
  else
    match checkName p with
    | .ok () => files.makeWalk (files.start p) (names p)
    | .error _ => (files, false)

/-- What stands below the working directory, by the names that lead to it from there. -/
def below (files : Files) : List (Location × FileNode) :=
  files.nodes.filterMap fun (location, node) =>
    if files.here.isPrefixOf location ∧ location ≠ files.here then
      some (location.drop files.here.length, node)
    else none

end Files

/-- What can be found out about paths without changing anything: whether something is seen there,
and the text that is read. -/
structure FileView where
  has : Path → Bool
  readText : Path → Except FileError String

def Files.view (files : Files) : FileView where
  has := files.has
  readText := files.readText

end EntityDiagram
