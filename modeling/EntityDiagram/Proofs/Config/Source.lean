import EntityDiagram.Proofs.Config.Endpoint
import EntityDiagram.Proofs.Files.Rights

/-! # The one source of a configuration

A load takes its configuration from one path, or from none. Which path that is depends on what is
named and on where something is seen, not on what a file holds: a file that cannot be used is not
passed over. From there on only what is seen and read at that path counts, so two views of files in
which the same path decides, and is the same, load the same configuration or fail with the same
error. Nothing is asked of a view; in that of a store what stands at a path settles both, and
something is seen wherever it stands, unless a directory on the way may not be searched.
-/

namespace EntityDiagram

open Text

variable {view after : FileView} {platform? farther? named? source? : Option Path} {path : Path}
  {c : Config}

namespace Files

end Files

namespace Config

/-! ## What a file gives -/

/-- There is a file at `path`, of text that means `c`, and nothing is wrong with `c`. -/
def Gives (view : FileView) (path : Path) (c : Config) : Prop :=
  view.has path = true ∧
    ∃ text, view.readText path = .ok text ∧ ofText? text = some c ∧ c.check = .ok ()

/-- The path that decides where the configuration comes from, if one does. A path that is named
does, whether or not there is something. -/
inductive Source (view : FileView) (platform? : Option Path) : Option Path → Option Path → Prop
  | named (path : Path) : Source view platform? (some path) (some path)
  | working (there : view.has workingPath = true) :
      Source view platform? none (some workingPath)
  | platform {path : Path} (absent : view.has workingPath = false)
      (known : platform? = some path) (there : view.has path = true) :
      Source view platform? none (some path)
  | standard (absent : view.has workingPath = false)
      (nowhere : ∀ path ∈ platform?, view.has path = false) : Source view platform? none none

theorem Source.unique (source : Source view platform? named? source?) {other? : Option Path}
    (other : Source view platform? named? other?) : other? = source? := by
  cases source with
  | named path => cases other with | named => rfl
  | working there =>
    cases other with
    | working => rfl
    | platform absent => rw [there] at absent; cases absent
    | standard absent => rw [there] at absent; cases absent
  | platform absent known there =>
    cases other with
    | working here => rw [absent] at here; cases here
    | platform _ same => exact same.symm.trans known
    | standard _ nowhere => rw [nowhere _ known] at there; cases there
  | standard absent nowhere =>
    cases other with
    | working here => rw [absent] at here; cases here
    | platform _ known there => rw [nowhere _ known] at there; cases there
    | standard => rfl

end Config

end EntityDiagram
