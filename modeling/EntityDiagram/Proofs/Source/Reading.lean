import EntityDiagram.Proofs.Model.Keys
import EntityDiagram.Proofs.Text.Cut
import EntityDiagram.Proofs.Text.Run
import EntityDiagram.Source.Document

/-! # Reading without the log

The model that a document gives is a fold over its classified lines; line numbers and log records
have no part in it. The items of an attribute list are read one by one.
-/

namespace EntityDiagram

open Text

/-- The model after what a line declares. -/
def Model.declare (m : Model) : Line → Model
  | .entity e => (m.insert e).2
  | .relationship r => m.relate r
  | .unmatched => m

namespace Document

/-- What a line declares, without the white space around it. -/
def lineOf (line : List Char) : Line := Line.classify (trim line)

theorem register_value (m : Model) (number : Nat) (line : Line) :
    (register m number line).value = m.declare line := by
  cases line with
  | entity e =>
    rw [register, Model.declare]
    cases inserted : m.insert e with
    | mk replaced next => cases replaced <;> rfl
  | relationship r => rfl
  | unmatched => rfl

theorem registerAll_value (m : Model) (number : Nat) (lines : List (List Char)) :
    (registerAll m number lines).value = (lines.map lineOf).foldl Model.declare m := by
  induction lines generalizing m number with
  | nil => rfl
  | cons line rest ih =>
    rw [registerAll, Logged.value_bind, register_value, ih, List.map_cons, List.foldl_cons]
    rfl

theorem parse_value (text : String) :
    (parse text).value = ((lines text.toList).map lineOf).foldl Model.declare .empty :=
  registerAll_value .empty 1 (lines text.toList)

end Document

namespace Line

theorem attributes_append (before after : List Char) :
    attributes (before ++ ',' :: after) = attributes before ++ attributes after := by
  rw [attributes, splitAt_append, List.filterMap_append]
  rfl

theorem attributes_of_not_mem {item : List Char} (single : ',' ∉ item) :
    attributes item = (attribute? item).toList := by
  rw [attributes, splitAt_of_not_mem single, List.filterMap_cons, List.filterMap_nil]
  cases attribute? item <;> rfl

theorem attribute?_cons_blank (item : List Char) : attribute? (' ' :: item) = attribute? item := by
  have kept : (' ' :: item).filter (· ≠ '*') = ' ' :: item.filter (· ≠ '*') :=
    List.filter_cons_of_pos (by decide)
  have starred : (' ' :: item).contains '*' = item.contains '*' := by simp
  rw [attribute?, attribute?, kept, trim_cons (by decide), starred]

theorem attributes_cons_blank (body : List Char) : attributes (' ' :: body) = attributes body := by
  obtain ⟨item, items, split⟩ := List.exists_cons_of_ne_nil (@splitAt_ne_nil ',' body)
  rw [attributes, attributes, splitAt_cons_of_ne (by decide) split, split, List.filterMap_cons,
    List.filterMap_cons, attribute?_cons_blank]

end Line

end EntityDiagram
