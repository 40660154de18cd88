import EntityDiagram.Proofs.Drawing.Graph
import EntityDiagram.Proofs.Model.Equality

/-! # The order of declarations in a drawing

The graph of a model depends on the order of its entities in the order of its nodes only: the ends
of relationships are looked up by name, so the first end that is missing is the same in equal
models, and so is every edge. Where an entity is declared, before or behind the relationships that
use it, has no part in whether a document can be drawn and what is drawn.
-/

namespace EntityDiagram

open Text

namespace Graph

/-- The same end is missing, or the edges are the same and the nodes are the same in any order. -/
inductive Alike : Except String Graph → Except String Graph → Prop
  | refused (name : String) : Alike (.error name) (.error name)
  | drawn {g h : Graph} (nodes : g.nodes.Perm h.nodes) (edges : g.edges = h.edges) :
      Alike (.ok g) (.ok h)

variable {m n : Model}

theorem alike_of_agrees (same : m.agrees n = true) :
    Alike (ofModel m).value (ofModel n).value := by
  obtain ⟨found, relationships⟩ := Model.agrees_iff_found.mp same
  have ends : m.ends = n.ends := by rw [Model.ends, Model.ends, relationships]
  rw [ofModel_value, ofModel_value]
  simp only [found, ends, relationships]
  split
  · exact .refused _
  · exact .drawn ((Model.perm_of_found found).map nodeOf) rfl

end Graph

/-- Two documents are read as equal models exactly if they declare the same relationships in the
same order and the same entity last for each name; equal models fail to be drawn for the same end or
give graphs that differ in the order of nodes only; and neither is changed by lines that change
places, unless they declare one name or two relationships. -/
theorem Document.order_indifferent :
    (∀ t u, (parse t).value.agrees (parse u).value = true ↔
        Declaration.Same (declarations t) (declarations u)) ∧
      (∀ m n : Model, m.agrees n = true →
        Graph.Alike (Graph.ofModel m).value (Graph.ofModel n).value) ∧
      ∀ t u, Relation.ReflTransGen Swap (lines t.toList) (lines u.toList) →
        (parse t).value.agrees (parse u).value = true ∧
          Graph.Alike (Graph.ofModel (parse t).value).value (Graph.ofModel (parse u).value).value := by
  refine ⟨fun t u => ?_, fun m n => Graph.alike_of_agrees, fun t u swaps => ?_⟩
  · rw [Model.parse_value_eq_build, Model.parse_value_eq_build]
    exact Model.agrees_build_iff
  · have same : (parse t).value.agrees (parse u).value = true := by
      rw [parse_value, parse_value]
      exact agrees_of_swaps swaps
    exact ⟨same, Graph.alike_of_agrees same⟩

/-- A relationship moves behind the ends it names, and a redeclared entity behind another. -/
theorem Document.order_indifferent_redeclared :
    let t := "Entity: A [x]\nRelationship: A -- r --> B\nEntity: A [id*]\nEntity: B []"
    let u := "Entity: A [x]\nEntity: B []\nEntity: A [id*]\nRelationship: A -- r --> B"
    Relation.ReflTransGen Swap (lines t.toList) (lines u.toList) ∧
      (parse t).value.agrees (parse u).value = true ∧
      Graph.Alike (Graph.ofModel (parse t).value).value (Graph.ofModel (parse u).value).value := by
  intro t u
  let first := "Entity: A [x]".toList
  let relation := "Relationship: A -- r --> B".toList
  let again := "Entity: A [id*]".toList
  let other := "Entity: B []".toList
  have begun : lines t.toList = [first, relation, again, other] := by decide
  have ended : lines u.toList = [first, other, again, relation] := by decide
  have past : Swap [first, relation, again, other] [first, again, relation, other] :=
    .swap [first] [other] (by decide)
  have last : Swap [first, again, relation, other] [first, again, other, relation] :=
    .swap [first, again] [] (by decide)
  have behind : Swap [first, again, other, relation] [first, other, again, relation] :=
    .swap [first] [relation] (by decide)
  have swaps : Relation.ReflTransGen Swap (lines t.toList) (lines u.toList) := by
    rw [begun, ended]
    exact ((Relation.ReflTransGen.single past).tail last).tail behind
  have same := (order_indifferent.2.2 t u swaps).1
  exact ⟨swaps, same, order_indifferent.2.1 _ _ same⟩

end EntityDiagram
