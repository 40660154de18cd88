import EntityDiagram.Proofs.Drawing.Description
import EntityDiagram.Proofs.Drawing.Token

/-! # Labels as elements

A label is one table with a row for the heading and a row for each attribute. Names are texts of its
tree, so whatever they hold, they make no element, no bracket and no escape that the label would not
have without them, and they are read back as they are.
-/

namespace EntityDiagram

open Text Xml

namespace Label

/-! ## Rows -/

/-- The element is a row of a table. -/
def isRow (entry : List Char × List Char) : Bool := entry.1 = "TR".toList

theorem countP_rowTree (a : Attribute) : (rowTree a).outline.countP isRow = 1 := by
  rw [rowTree, keyTree]
  cases a.primary <;> rfl

theorem countP_rows (attributes : List Attribute) :
    (outlineAll (attributes.map rowTree)).countP isRow = attributes.length := by
  induction attributes with
  | nil => rfl
  | cons a rest ih =>
    rw [List.map_cons, outlineAll, List.countP_append, countP_rowTree, ih, List.length_cons,
      Nat.add_comm]

/-! ## What a label keeps -/

/-- The label presents the entity, and none of its names breaks the label. -/
structure Presents (label : List Char) (e : Entity) : Prop where
  /-- It can be read as a table, in one way, with a row for the heading and for each attribute. -/
  table : ∃ body elements, (∀ outline, Marked .element label outline ↔
    outline = ("TABLE".toList, body) :: elements) ∧
    elements.countP isRow = 1 + e.attributes.length
  shallow : Shallow label
  /-- Between angle brackets it ends, for a reader that counts them, at the last one. -/
  closes : ∀ rest, Token.next? ('<' :: (label ++ '>' :: rest)) =
    some (.id ('<' :: (label ++ ['>'])), rest)
  escaped : Escaped label
  read : table? label = some ({
    name := e.name
    rows := e.attributes.map fun a =>
      { name := a.name, primary := a.primary, type := (DataType.infer a.name).name } }, [])

theorem marked_markup_iff {e : Entity} {outline : Outline} :
    Marked .element (markup e) outline ↔ outline = (tree e).outline := by
  have whole : Marked .element (markup e) (tree e).outline := by
    rw [← render_tree]
    exact marked_of_valid rfl (valid_tree e)
  constructor
  · intro marked
    have same : markup e ++ [] = markup e ++ [] := rfl
    exact (marked.unique whole trivial trivial same).2.1
  · rintro rfl
    exact whole

theorem countP_tree (e : Entity) :
    (outlineAll (headingTree e.name :: e.attributes.map rowTree)).countP isRow =
      1 + e.attributes.length := by
  have heading : (headingTree e.name).outline.countP isRow = 1 := rfl
  rw [outlineAll, List.countP_append, heading, countP_rows]

theorem presents_markup (e : Entity) : Presents (markup e) e where
  table := ⟨_, _, fun _ => marked_markup_iff, countP_tree e⟩
  shallow := by
    rw [← render_tree]
    exact pieced_shallow.render (tree e) (valid_tree e)
  closes := Token.next?_markup e
  escaped := by
    rw [← render_tree]
    exact pieced_escaped.render (tree e) (valid_tree e)
  read := by
    have read := table?_markup e []
    rwa [List.append_nil] at read

theorem render_eq_iff {e f : Entity} : render e = render f ↔ e.shown = f.shown := by
  have same_markup : render e = render f ↔ markup e = markup f := by
    rw [render, render, String.ofList_inj]
  rw [same_markup]
  constructor
  · intro same
    have read := table?_markup e []
    rw [same, table?_markup f] at read
    have table : f.table = e.table := (Prod.mk.inj (Option.some.inj read)).1
    have name : f.name = e.name := congrArg Table.name table
    rw [Entity.shown, Entity.shown, ← Description.rows_shown, ← Description.rows_shown, table, name]
  · intro same
    rw [← Description.markup_shown e, same, Description.markup_shown]

/-- Whatever an entity's names hold, its label is one table with a row for the name and for each
attribute, whose brackets and escapes are those of the table alone and from which everything that
it shows is read back. It shows all but the foreign flags. -/
theorem render_unbroken (e : Entity) :
    Presents (render e).toList e ∧
      ∀ f, render e = render f ↔ e.name = f.name ∧
        e.attributes.map (fun a => (a.name, a.primary)) =
          f.attributes.map (fun a => (a.name, a.primary)) := by
  constructor
  · rw [render, String.toList_ofList]
    exact presents_markup e
  · intro f
    rw [render_eq_iff, Entity.shown, Entity.shown, Prod.mk.injEq]
    rfl

end Label

end EntityDiagram
