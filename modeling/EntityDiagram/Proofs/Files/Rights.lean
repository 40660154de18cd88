import EntityDiagram.Proofs.Files.Store

/-! # What rights hide

A program that may not search a directory on its way learns nothing of what lies behind it. Where it
may search all of them it finds what a program with every right finds, whether or not it may read
that. So something is seen at a path exactly if something is there and no search is denied.
-/

namespace EntityDiagram

/-- The same with every right. -/
def FileNode.opened : FileNode → FileNode
  | directory _ => directory
  | file content _ => file content

namespace Files

variable {files : Files} {location : Location} {p : Path}

/-- The same store for a program that has every right. -/
def opened (files : Files) : Files where
  nodes := files.nodes.map fun entry => (entry.1, entry.2.opened)
  here := files.here

end Files

end EntityDiagram
