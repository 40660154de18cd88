import EntityDiagram.Drawing.DataType
import EntityDiagram.Model.Basic
import EntityDiagram.Text.Markup

/-! # Table labels

Every drawing shows an entity as the same table: a heading with its name, then one row per
attribute with a key mark, the attribute's name and its display type.
-/

namespace EntityDiagram

namespace Label

def opening : List Char :=
  "<TABLE BORDER=\"1\" CELLBORDER=\"1\" CELLSPACING=\"0\" CELLPADDING=\"4\">".toList

def closing : List Char := "</TABLE>".toList

def heading (name : String) : List Char :=
  "<TR><TD COLSPAN=\"2\" BGCOLOR=\"lightgrey\" ALIGN=\"CENTER\"><B>".toList ++
    Text.escapeMarkup name ++ "</B></TD></TR>".toList

def keyMark (a : Attribute) : List Char := if a.primary then "<B>PK </B>".toList else []

def row (a : Attribute) : List Char :=
  "<TR><TD ALIGN=\"LEFT\">".toList ++ keyMark a ++ "<B>".toList ++ Text.escapeMarkup a.name ++
    "</B></TD><TD ALIGN=\"LEFT\">".toList ++ (DataType.infer a.name).name.toList ++
    "</TD></TR>".toList

def markup (e : Entity) : List Char :=
  opening ++ heading e.name ++ e.attributes.flatMap row ++ closing

def render (e : Entity) : String := String.ofList (markup e)

end Label

end EntityDiagram
