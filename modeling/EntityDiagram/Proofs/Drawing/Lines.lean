import EntityDiagram.Drawing.Description
import EntityDiagram.Proofs.Model.Store
import EntityDiagram.Proofs.Source.WellFormed
import EntityDiagram.Proofs.Text.Escape

/-! # The lines of a description

A parsed document is described with one line per declaration that counts. Its names are words, which
need no escapes between quotes, and no name on a line holds a line feed, so neither does a label:
every statement stands on a line of its own, as it would be written by hand.
-/

namespace EntityDiagram

open Text Drawing

namespace Description

/-! ## The lines -/

def nodeLine (e : Entity) : List Char :=
  "\"".toList ++ e.name.toList ++ "\" [shape=plaintext, label=<".toList ++ Label.markup e ++
    ">];".toList

def edgeLine (r : Relationship) : List Char :=
  "\"".toList ++ r.source.toList ++ "\" -> \"".toList ++ r.target.toList ++
    "\" [label=\"".toList ++ r.relation.toList ++ "\"];".toList

def linesOf (es : List Entity) (rs : List Relationship) : List (List Char) :=
  ["digraph ERD \x7b".toList, "rankdir=LR;".toList] ++ es.map nodeLine ++ rs.map edgeLine ++
    ["\x7d".toList]

/-! ## Words need no escapes -/

theorem quotedName_of_isWord {name : String} (word : IsWord name.toList) :
    quotedName name = "\"".toList ++ name.toList ++ "\"".toList := by
  have plain : name.toList.flatMap escapeNameChar = name.toList := by
    have same : ∀ c ∈ name.toList, escapeNameChar c = [c] := by
      intro c member
      have backslash : c ≠ '\\' := fun is => word.not_mem (by decide) (is ▸ member)
      have quote : c ≠ '"' := fun is => word.not_mem (by decide) (is ▸ member)
      rw [escapeNameChar, if_neg backslash, if_neg quote]
    rw [List.flatMap_congr same, List.flatMap_singleton']
  rw [quotedName, plain]
  rfl

theorem entityLine_eq {e : Entity} (writable : e.Writable) :
    entityLine e = nodeLine e ++ ['\n'] := by
  rw [entityLine, quotedName_of_isWord writable.name, nodeLine]
  simp

theorem relationshipLine_eq {r : Relationship} (writable : r.Writable) :
    relationshipLine r = edgeLine r ++ ['\n'] := by
  rw [relationshipLine, quotedName_of_isWord writable.source, quotedName_of_isWord writable.target,
    quotedName_of_isWord writable.relation, edgeLine]
  simp

theorem text_eq_lines {m : Model} (writable : m.Writable) :
    text m = (linesOf m.entities m.relationships).flatMap (· ++ ['\n']) := by
  have nodes : m.entities.flatMap entityLine = (m.entities.map nodeLine).flatMap (· ++ ['\n']) := by
    rw [List.flatMap_map]
    exact List.flatMap_congr fun e member => entityLine_eq (writable.entities e member)
  have edges : m.relationships.flatMap relationshipLine =
      (m.relationships.map edgeLine).flatMap (· ++ ['\n']) := by
    rw [List.flatMap_map]
    exact List.flatMap_congr fun r member => relationshipLine_eq (writable.relationships r member)
  have begins : opening =
      ["digraph ERD \x7b".toList, "rankdir=LR;".toList].flatMap (· ++ ['\n']) := by decide
  have ends : closing = ["\x7d".toList].flatMap (· ++ ['\n']) := by decide
  rw [text, nodes, edges, begins, ends, linesOf]
  simp only [List.flatMap_append]

/-! ## No line holds a line feed -/

theorem feed_not_mem_escapeMarkup {s : String} (whole : '\n' ∉ s.toList) :
    '\n' ∉ escapeMarkup s := by
  intro member
  rcases mem_escapeMarkup member with ⟨inside, -⟩ | spelled
  · exact whole inside
  · exact absurd spelled (by decide)

theorem feed_not_mem_keyMark (a : Attribute) : '\n' ∉ Label.keyMark a := by
  rw [Label.keyMark]
  cases a.primary <;> decide

theorem feed_not_mem_typeName (type : DataType) : '\n' ∉ type.name.toList := by
  cases type <;> decide

theorem feed_not_mem_row {a : Attribute} (writable : a.Writable) : '\n' ∉ Label.row a := by
  have front : '\n' ∉ "<TR><TD ALIGN=\"LEFT\">".toList := by decide
  have bold : '\n' ∉ "<B>".toList := by decide
  have middle : '\n' ∉ "</B></TD><TD ALIGN=\"LEFT\">".toList := by decide
  have back : '\n' ∉ "</TD></TR>".toList := by decide
  have marked := List.not_mem_append (List.not_mem_append front (feed_not_mem_keyMark a)) bold
  have named := List.not_mem_append
    (List.not_mem_append marked (feed_not_mem_escapeMarkup writable.feed)) middle
  exact List.not_mem_append (List.not_mem_append named (feed_not_mem_typeName _)) back

theorem feed_not_mem_markup {e : Entity} (writable : e.Writable) : '\n' ∉ Label.markup e := by
  have opening : '\n' ∉ Label.opening := by decide
  have closing : '\n' ∉ Label.closing := by decide
  have front : '\n' ∉
      "<TR><TD COLSPAN=\"2\" BGCOLOR=\"lightgrey\" ALIGN=\"CENTER\"><B>".toList := by decide
  have back : '\n' ∉ "</B></TD></TR>".toList := by decide
  have name := feed_not_mem_escapeMarkup (writable.name.not_mem (c := '\n') (by decide))
  have heading : '\n' ∉ Label.heading e.name :=
    List.not_mem_append (List.not_mem_append front name) back
  have rows : '\n' ∉ e.attributes.flatMap Label.row := by
    intro member
    obtain ⟨a, listed, inside⟩ := List.mem_flatMap.mp member
    exact feed_not_mem_row (writable.attributes a listed) inside
  exact List.not_mem_append (List.not_mem_append (List.not_mem_append opening heading) rows) closing

theorem feed_not_mem_nodeLine {e : Entity} (writable : e.Writable) : '\n' ∉ nodeLine e := by
  have name := writable.name.not_mem (c := '\n') (by decide)
  simp only [nodeLine, List.mem_append, not_or]
  exact ⟨⟨⟨⟨by decide, name⟩, by decide⟩, feed_not_mem_markup writable⟩, by decide⟩

theorem feed_not_mem_edgeLine {r : Relationship} (writable : r.Writable) : '\n' ∉ edgeLine r := by
  have source := writable.source.not_mem (c := '\n') (by decide)
  have target := writable.target.not_mem (c := '\n') (by decide)
  have relation := writable.relation.not_mem (c := '\n') (by decide)
  simp only [edgeLine, List.mem_append, not_or]
  exact ⟨⟨⟨⟨⟨⟨by decide, source⟩, by decide⟩, target⟩, by decide⟩, relation⟩, by decide⟩

theorem splitAt_text {m : Model} (writable : m.Writable) :
    splitAt '\n' (text m) = linesOf m.entities m.relationships ++ [[]] := by
  rw [text_eq_lines writable]
  refine splitAt_flatMap fun line listed => ?_
  rw [linesOf, List.mem_append, List.mem_append, List.mem_append, List.mem_map, List.mem_map] at listed
  rcases listed with ((fixed | ⟨e, member, rfl⟩) | ⟨r, member, rfl⟩) | fixed
  · have whole : ∀ line ∈ ["digraph ERD \x7b".toList, "rankdir=LR;".toList], '\n' ∉ line := by decide
    exact whole line fixed
  · exact feed_not_mem_nodeLine (writable.entities e member)
  · exact feed_not_mem_edgeLine (writable.relationships r member)
  · have whole : ∀ line ∈ ["\x7d".toList], '\n' ∉ line := by decide
    exact whole line fixed

theorem length_linesOf (es : List Entity) (rs : List Relationship) :
    (linesOf es rs).length = 3 + es.length + rs.length := by
  simp only [linesOf, List.length_append, List.length_map, List.length_cons, List.length_nil]
  omega

/-- Whatever the document, its description ends in a line feed and has one line for every name, at
the place of the name's first declaration and with the label of its last, and one for every
relationship, besides the two lines that begin it and the one that ends it. -/
theorem describe_parse_lines (document : String) :
    let entities := Declaration.entities (Document.declarations document)
    let relationships := Declaration.relationships (Document.declarations document)
    let description := (describe (Document.parse document).value).toList
    description.getLast? = some '\n' ∧ ∃ listed : List Entity,
      listed.map Entity.name = (entities.map Entity.name).eraseDups ∧
      (∀ e ∈ listed, e.LastOf entities) ∧
      splitAt '\n' description = linesOf listed relationships ++ [[]] ∧
      (linesOf listed relationships).length =
        3 + (entities.map Entity.name).toFinset.card + relationships.length := by
  intro entities relationships description
  have holds : (Document.parse document).value.Holds (Document.declarations document) := by
    rw [Model.parse_value_eq_build]
    exact Model.holds_build _
  have described : description = text (Document.parse document).value := String.toList_ofList
  refine ⟨?_, (Document.parse document).value.entities, holds.names,
    fun e member => (holds.last e).mp member, ?_, ?_⟩
  · rw [described, text, List.getLast?_append]
    rfl
  · rw [described, splitAt_text (Document.parse_writable document), holds.relationships]
  · rw [length_linesOf, holds.count]

end Description

end EntityDiagram
