import EntityDiagram.Drawing.Label
import EntityDiagram.Proofs.Deck.Brackets
import EntityDiagram.Proofs.Text.Cut

/-! # Reading labels back

A label is read as a table: the heading, then row after row. A row may begin with a key mark, which
is a bold text before the bold name; whether it does shows in whether a second bold text follows,
so a name that spells the mark is not taken for one. A label is also what a tree renders to, in which
the names are texts.
-/

namespace EntityDiagram

open Text

/-- What a label shows of an attribute. -/
structure Row where
  name : String
  primary : Bool
  type : String
  deriving DecidableEq, Repr

/-- What a label shows of an entity. -/
structure Table where
  name : String
  rows : List Row
  deriving DecidableEq, Repr

def Attribute.row (a : Attribute) : Row :=
  { name := a.name, primary := a.primary, type := (DataType.infer a.name).name }

def Entity.table (e : Entity) : Table := { name := e.name, rows := e.attributes.map Attribute.row }

namespace Label

/-! ## Readers -/

def bold? (cs : List Char) : Option (String × List Char) := do
  let rest ← dropStart? "<B>".toList cs
  let (text, rest) := plainText rest
  let rest ← dropStart? "</B>".toList rest
  return (text, rest)

/-- A bold name, and whether a bold mark stands before it. -/
def field? (cs : List Char) : Option ((String × Bool) × List Char) := do
  let (first, rest) ← bold? cs
  match bold? rest with
  | some (name, rest) => return ((name, true), rest)
  | none => return ((first, false), rest)

def row? (cs : List Char) : Option (Row × List Char) := do
  let rest ← dropStart? "<TR><TD ALIGN=\"LEFT\">".toList cs
  let ((name, primary), rest) ← field? rest
  let rest ← dropStart? "</TD><TD ALIGN=\"LEFT\">".toList rest
  let (type, rest) := plainText rest
  let rest ← dropStart? "</TD></TR>".toList rest
  return ({ name, primary, type }, rest)

def table? (cs : List Char) : Option (Table × List Char) := do
  let rest ← dropStart? opening cs
  let rest ← dropStart?
    "<TR><TD COLSPAN=\"2\" BGCOLOR=\"lightgrey\" ALIGN=\"CENTER\">".toList rest
  let (name, rest) ← bold? rest
  let rest ← dropStart? "</TD></TR>".toList rest
  let (rows, rest) := many row? rest
  let rest ← dropStart? closing rest
  return ({ name, rows }, rest)

/-! ## What they read -/

theorem bold?_append (text : String) (rest : List Char) :
    bold? ("<B>".toList ++ (escapeMarkup text ++ ("</B>".toList ++ rest))) = some (text, rest) := by
  have plain : plainText (escapeMarkup text ++ ("</B>".toList ++ rest)) =
    (text, "</B>".toList ++ rest) := plainText_escapeMarkup text _
  simp only [bold?, dropStart?_append, Option.bind_eq_bind, Option.bind_some, plain]
  rfl

theorem field?_append (a : Attribute) (rest : List Char) (closed : bold? rest = none) :
    field? (keyMark a ++ ("<B>".toList ++ (escapeMarkup a.name ++ ("</B>".toList ++ rest)))) =
      some ((a.name, a.primary), rest) := by
  rw [field?, keyMark]
  cases a.primary with
  | false =>
    rw [if_neg Bool.false_ne_true, List.nil_append, bold?_append]
    simp only [Option.bind_eq_bind, Option.bind_some, closed]
    rfl
  | true =>
    have mark : "<B>PK </B>".toList = "<B>".toList ++ (escapeMarkup "PK " ++ "</B>".toList) := by
      decide
    rw [if_pos rfl, mark, List.append_assoc, List.append_assoc, bold?_append]
    simp only [Option.bind_eq_bind, Option.bind_some, bold?_append]
    rfl

theorem escapeMarkup_name (type : DataType) : escapeMarkup type.name = type.name.toList := by
  cases type <;> decide

theorem row_append (a : Attribute) (rest : List Char) :
    row a ++ rest = "<TR><TD ALIGN=\"LEFT\">".toList ++ (keyMark a ++ ("<B>".toList ++
      (escapeMarkup a.name ++ ("</B>".toList ++ ("</TD><TD ALIGN=\"LEFT\">".toList ++
        ((DataType.infer a.name).name.toList ++ ("</TD></TR>".toList ++ rest))))))) := by
  have cells : "</B></TD><TD ALIGN=\"LEFT\">".toList =
    "</B>".toList ++ "</TD><TD ALIGN=\"LEFT\">".toList := by decide
  change _ ++ _ ++ _ ++ _ ++ _ ++ _ ++ _ ++ rest = _
  simp only [cells, List.append_assoc]

theorem row?_row (a : Attribute) (rest : List Char) : row? (row a ++ rest) = some (a.row, rest) := by
  have field := field?_append a ("</TD><TD ALIGN=\"LEFT\">".toList ++
    ((DataType.infer a.name).name.toList ++ ("</TD></TR>".toList ++ rest))) rfl
  have type : plainText ((DataType.infer a.name).name.toList ++ ("</TD></TR>".toList ++ rest)) =
      ((DataType.infer a.name).name, "</TD></TR>".toList ++ rest) := by
    rw [← escapeMarkup_name]
    exact plainText_escapeMarkup _ _
  rw [row_append, row?]
  simp only [dropStart?_append, Option.bind_eq_bind, Option.bind_some, field, type]
  rfl

theorem markup_append (e : Entity) (rest : List Char) :
    markup e ++ rest = opening ++
      ("<TR><TD COLSPAN=\"2\" BGCOLOR=\"lightgrey\" ALIGN=\"CENTER\">".toList ++ ("<B>".toList ++
        (escapeMarkup e.name ++ ("</B>".toList ++ ("</TD></TR>".toList ++
          (e.attributes.flatMap row ++ (closing ++ rest))))))) := by
  have before : "<TR><TD COLSPAN=\"2\" BGCOLOR=\"lightgrey\" ALIGN=\"CENTER\"><B>".toList =
    "<TR><TD COLSPAN=\"2\" BGCOLOR=\"lightgrey\" ALIGN=\"CENTER\">".toList ++ "<B>".toList := by
    decide
  have behind : "</B></TD></TR>".toList = "</B>".toList ++ "</TD></TR>".toList := by decide
  change opening ++ (_ ++ _ ++ _) ++ _ ++ closing ++ rest = _
  simp only [before, behind, List.append_assoc]

/-- Whatever the names hold, a label is read back with all that follows it. -/
theorem table?_markup (e : Entity) (rest : List Char) :
    table? (markup e ++ rest) = some (e.table, rest) := by
  have rows : many row? (e.attributes.flatMap row ++ (closing ++ rest)) =
      (e.attributes.map Attribute.row, closing ++ rest) :=
    many_flatMap row?_row (fun a => List.cons_ne_nil _ _) rfl e.attributes
  rw [markup_append, table?]
  simp only [dropStart?_append, Option.bind_eq_bind, Option.bind_some, bold?_append, rows]
  rfl

/-! ## The tree of a label -/

open Xml

def bold (content : String) : Xml := node "B" [] [.text content]

def keyTree (a : Attribute) : List Xml := if a.primary then [bold "PK "] else []

def headingTree (name : String) : Xml :=
  node "TR" [] [
    node "TD" [("COLSPAN", "2"), ("BGCOLOR", "lightgrey"), ("ALIGN", "CENTER")] [bold name]]

def rowTree (a : Attribute) : Xml :=
  node "TR" [] [
    node "TD" [("ALIGN", "LEFT")] (keyTree a ++ [bold a.name]),
    node "TD" [("ALIGN", "LEFT")] [.text (DataType.infer a.name).name]]

def tree (e : Entity) : Xml :=
  node "TABLE" [("BORDER", "1"), ("CELLBORDER", "1"), ("CELLSPACING", "0"), ("CELLPADDING", "4")]
    (headingTree e.name :: e.attributes.map rowTree)

theorem render_bold (content : String) :
    (bold content).render = openTag "B" [] ++ (escapeMarkup content ++ closeTag "B") := by
  rw [bold, node, render_paired _ _ (List.cons_ne_nil _ _), renderAll_singleton]
  rfl

theorem render_headingTree (name : String) : (headingTree name).render = heading name := by
  have front : "<TR><TD COLSPAN=\"2\" BGCOLOR=\"lightgrey\" ALIGN=\"CENTER\"><B>".toList =
      openTag "TR" [] ++ (openTag "TD" [("COLSPAN", "2"), ("BGCOLOR", "lightgrey"),
        ("ALIGN", "CENTER")] ++ openTag "B" []) := by decide +kernel
  have back : "</B></TD></TR>".toList = closeTag "B" ++ (closeTag "TD" ++ closeTag "TR") := by
    decide +kernel
  change _ = _ ++ escapeMarkup name ++ _
  rw [headingTree, node, render_paired _ _ (List.cons_ne_nil _ _), renderAll_singleton, node,
    render_paired _ _ (List.cons_ne_nil _ _), renderAll_singleton, render_bold, front, back]
  simp only [List.append_assoc]

theorem renderAll_keyTree (a : Attribute) :
    renderAll (keyTree a ++ [bold a.name]) = keyMark a ++ (bold a.name).render := by
  have mark : "<B>PK </B>".toList = (bold "PK ").render := by decide +kernel
  rw [keyTree, keyMark, mark]
  cases a.primary with
  | false => exact renderAll_singleton _
  | true =>
    change (bold "PK ").render ++ renderAll [bold a.name] = _
    rw [renderAll_singleton, if_pos rfl]

theorem render_rowTree (a : Attribute) : (rowTree a).render = row a := by
  have front : "<TR><TD ALIGN=\"LEFT\">".toList =
      openTag "TR" [] ++ openTag "TD" [("ALIGN", "LEFT")] := by decide +kernel
  have name : "<B>".toList = openTag "B" [] := by decide +kernel
  have middle : "</B></TD><TD ALIGN=\"LEFT\">".toList =
      closeTag "B" ++ (closeTag "TD" ++ openTag "TD" [("ALIGN", "LEFT")]) := by decide +kernel
  have back : "</TD></TR>".toList = closeTag "TD" ++ closeTag "TR" := by decide +kernel
  have field : keyTree a ++ [bold a.name] ≠ [] := by simp
  have type : (text (DataType.infer a.name).name).render = (DataType.infer a.name).name.toList :=
    escapeMarkup_name _
  change _ = _ ++ keyMark a ++ _ ++ escapeMarkup a.name ++ _ ++
    (DataType.infer a.name).name.toList ++ _
  rw [rowTree, node, render_paired _ _ (List.cons_ne_nil _ _), renderAll, renderAll_singleton, node,
    node, render_paired _ _ field, render_paired _ _ (List.cons_ne_nil _ _), renderAll_keyTree,
    renderAll_singleton, type, render_bold, front, name, middle, back]
  simp only [List.append_assoc]

/-- A label is what its tree renders to. -/
theorem render_tree (e : Entity) : (tree e).render = markup e := by
  have front : opening = openTag "TABLE" [("BORDER", "1"), ("CELLBORDER", "1"),
    ("CELLSPACING", "0"), ("CELLPADDING", "4")] := by decide +kernel
  have back : closing = closeTag "TABLE" := by decide +kernel
  have rows : renderAll (e.attributes.map rowTree) = e.attributes.flatMap row := by
    induction e.attributes with
    | nil => rfl
    | cons a rest ih => rw [List.map_cons, renderAll, render_rowTree, ih, List.flatMap_cons]
  rw [tree, node, render_paired _ _ (List.cons_ne_nil _ _), renderAll, render_headingTree, rows,
    markup, front, back]
  simp only [List.append_assoc]

theorem valid_rowTree (a : Attribute) : (rowTree a).valid = true := by
  have same : (rowTree a).valid = (rowTree { name := "", primary := a.primary }).valid := by
    rw [rowTree, rowTree, keyTree, keyTree]
    cases a.primary <;> rfl
  rw [same, rowTree, keyTree]
  cases a.primary <;> decide +kernel

theorem valid_tree (e : Entity) : (tree e).valid = true := by
  have heading : (headingTree e.name).valid = true :=
    (show (headingTree e.name).valid = (headingTree "").valid from rfl).trans (by decide +kernel)
  have rows : validAll (e.attributes.map rowTree) = true := by
    induction e.attributes with
    | nil => rfl
    | cons a rest ih => exact (Bool.and_eq_true _ _).mpr ⟨valid_rowTree a, ih⟩
  have inside := (Bool.and_eq_true _ _).mpr ⟨heading, rows⟩
  exact valid_element.mpr ⟨by decide, by decide, by decide, inside⟩

end Label

end EntityDiagram
