import EntityDiagram.Text.Markup

/-! # Marked-up documents

A document is a tree of elements and text. An element without children is written as one tag. Text
and attribute values are escaped.
-/

namespace EntityDiagram

inductive Xml where
  | text (content : String)
  | element (name : String) (attributes : List (String × String)) (children : List Xml)
  deriving Repr

namespace Xml

def node (name : String) (attributes : List (String × String)) (children : List Xml) : Xml :=
  .element name attributes children

def leaf (name : String) (attributes : List (String × String)) : Xml := .element name attributes []

def attributeText (a : String × String) : List Char :=
  ' ' :: a.1.toList ++ '=' :: '"' :: Text.escapeMarkup a.2 ++ ['"']

def tagText (name : String) (attributes : List (String × String)) : List Char :=
  name.toList ++ attributes.flatMap attributeText

mutual

def render : Xml → List Char
  | text content => Text.escapeMarkup content
  | element name attributes [] => '<' :: tagText name attributes ++ ['/', '>']
  | element name attributes (child :: children) =>
    '<' :: tagText name attributes ++ '>' :: render child ++ renderAll children ++
      '<' :: '/' :: name.toList ++ ['>']

def renderAll : List Xml → List Char
  | [] => []
  | x :: rest => render x ++ renderAll rest

end

/-- What every document begins with. -/
def declaration : String := "<?xml version=\"1.0\" encoding=\"UTF-8\" standalone=\"yes\"?>\n"

def document (root : Xml) : String := String.ofList (declaration.toList ++ root.render)

end Xml

end EntityDiagram
