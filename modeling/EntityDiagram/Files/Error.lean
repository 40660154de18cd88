import EntityDiagram.Text.Quoted

/-! # Why a file operation fails

The causes that a file operation can have, with the system's number and text for those that the
system reports.
-/

namespace EntityDiagram

inductive FileError where
  | notFound
  | permissionDenied
  | notDirectory
  | isDirectory
  | nameTooLong
  | nulInName
  | notText
  | other (text : String)
  deriving DecidableEq, Repr

namespace FileError

/-- The system's number, its name for the kind and its text. -/
def system? : FileError → Option (Nat × String × String)
  | notFound => some (2, "NotFound", "No such file or directory")
  | permissionDenied => some (13, "PermissionDenied", "Permission denied")
  | notDirectory => some (20, "NotADirectory", "Not a directory")
  | isDirectory => some (21, "IsADirectory", "Is a directory")
  | nameTooLong => some (36, "InvalidFilename", "File name too long")
  | nulInName | notText | other _ => none

def message (e : FileError) : String :=
  match e.system?, e with
  | some (number, _, text), _ => text ++ " (os error " ++ toString number ++ ")"
  | none, nulInName => "file name contained an unexpected NUL byte"
  | none, notText => "stream did not contain valid UTF-8"
  | none, other text => text
  | none, _ => ""

open Text in
/-- The error with every field named. -/
def display (e : FileError) : String :=
  match e.system?, e with
  | some (number, kind, text), _ =>
    "Os \x7b code: " ++ toString number ++ ", kind: " ++ kind ++ ", message: " ++ quoted text ++
      " \x7d"
  | none, nulInName => "Error \x7b kind: InvalidInput, message: " ++ quoted e.message ++ " \x7d"
  | none, notText => "Error \x7b kind: InvalidData, message: " ++ quoted e.message ++ " \x7d"
  | none, _ => "Custom \x7b kind: Other, error: " ++ quoted e.message ++ " \x7d"

end FileError

end EntityDiagram
