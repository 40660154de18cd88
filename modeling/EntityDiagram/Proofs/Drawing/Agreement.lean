import EntityDiagram.Drawing.Description
import EntityDiagram.Drawing.Digraph
import EntityDiagram.Proofs.Drawing.Graph
import EntityDiagram.Proofs.Drawing.Token

/-! # Two texts of one digraph

A model that can be laid out has two texts: the input of the layout tool and its description. They
differ in commas, semicolons and the place of the direction, but they are the statements of one
digraph in one order, so a reader of the language that both are written in takes them for the same.
-/

namespace EntityDiagram

open Text Drawing

/-! ## A reader of digraphs -/

namespace Statement

/-- The attributes up to the end of their list, and what follows it. A comma may follow each. -/
def attributes? : List Token → Option (List (String × List Char) × List Token)
  | .closeList :: rest => some ([], rest)
  | .id key :: .equals :: .id value :: .comma :: rest =>
    (attributes? rest).map fun (others, rest) => ((String.ofList key, value) :: others, rest)
  | .id key :: .equals :: .id value :: rest =>
    (attributes? rest).map fun (others, rest) => ((String.ofList key, value) :: others, rest)
  | _ => none

def ofTokens? : List Token → Option (Statement × List Token)
  | .id key :: .equals :: .id value :: rest => some (graph [(String.ofList key, value)], rest)
  | .id source :: .arrow :: .id target :: .openList :: rest =>
    (attributes? rest).map fun (attributes, rest) => (edge source target attributes, rest)
  | .id name :: .openList :: rest =>
    (attributes? rest).map fun (attributes, rest) =>
      (if name = "graph".toList then graph attributes else node name attributes, rest)
  | _ => none

/-- The statements up to the end of the body, which ends the text. Semicolons may follow them. -/
def body? (tokens : List Token) : Option (List Statement) :=
  match tokens with
  | [.closeBody] => some []
  | .semicolon :: rest => body? rest
  | tokens =>
    match ofTokens? tokens with
    | none => none
    | some (statement, rest) =>
      if rest.length < tokens.length then (body? rest).map (statement :: ·) else none
termination_by tokens.length

end Statement

/-- The digraph that a text is, in the part of the language that drawings are written in. -/
def Digraph.read? (text : String) : Option Digraph :=
  match Token.tokens? text.toList with
  | some (.id keyword :: .id name :: .openBody :: body) =>
    if keyword = "digraph".toList then
      (Statement.body? body).map fun statements => { name := String.ofList name, statements }
    else none
  | _ => none

/-! ## Statements as the two texts write them -/

namespace Statement

/-- A statement in the layout tool's input. -/
def line (s : Statement) : List Char := "  ".toList ++ s.text ++ ['\n']

def equation (given : String × List Char) : List Char := given.1.toList ++ '=' :: given.2

/-- A statement in a description. The attributes of the graph itself stand outside a list. -/
def described : Statement → List Char
  | graph attributes => attributes.flatMap fun given => equation given ++ ";\n".toList
  | node name attributes =>
    name ++ " [".toList ++ List.intercalate ", ".toList (attributes.map equation) ++ "];\n".toList
  | edge source target attributes =>
    source ++ " -> ".toList ++ target ++ " [".toList ++
      List.intercalate ", ".toList (attributes.map equation) ++ "];\n".toList

end Statement

/-! ## The digraph of a model -/

namespace Digraph

def entityStatement (e : Entity) : Statement :=
  .node (quotedName e.name)
    [("shape", "plaintext".toList), ("label", '<' :: Label.markup e ++ ['>'])]

def relationshipStatement (r : Relationship) : Statement :=
  .edge (quotedName r.source) (quotedName r.target) [("label", quotedName r.relation)]

/-- The direction, then the entities, then the relationships. -/
def modelStatements (m : Model) : List Statement :=
  .graph [("rankdir", direction.toList)] :: m.entities.map entityStatement ++
    m.relationships.map relationshipStatement

theorem ofGraph_eq {m : Model} {g : Graph} (accepted : (Graph.ofModel m).value = .ok g) :
    ofGraph g = { name := "ERD", statements := modelStatements m } := by
  have node (e : Entity) : nodeStatement (Graph.nodeOf e) = entityStatement e := by
    have label : (Graph.nodeOf e).label.toList = Label.markup e := String.toList_ofList
    rw [nodeStatement, label]
    rfl
  cases (Graph.ofModel_eq_ok_iff.mp accepted).2
  simp only [ofGraph, modelStatements, List.map_map, Function.comp_def, node]
  rfl

/-! ## Both texts, statement by statement -/

theorem described_entityStatement (e : Entity) :
    (entityStatement e).described = Description.entityLine e := by
  have front : " [".toList ++ ("shape=plaintext".toList ++ (", ".toList ++ "label=<".toList)) =
    " [shape=plaintext, label=<".toList := by decide
  have attributes : List.intercalate ", ".toList
      [Statement.equation ("shape", "plaintext".toList),
        Statement.equation ("label", '<' :: Label.markup e ++ ['>'])] =
      "shape=plaintext".toList ++ (", ".toList ++ ("label=<".toList ++ (Label.markup e ++ ['>']))) := by
    simp [List.intercalate, Statement.equation]
  change _ ++ _ ++ List.intercalate _ [_, _] ++ _ = _ ++ _ ++ _ ++ _
  rw [attributes, ← front]
  simp only [List.append_assoc]
  rfl

theorem described_relationshipStatement (r : Relationship) :
    (relationshipStatement r).described = Description.relationshipLine r := by
  have front : " [".toList ++ "label=".toList = " [label=".toList := by decide
  change _ ++ _ ++ _ ++ _ ++ List.intercalate _ ["label".toList ++ '=' :: _] ++ _ =
    _ ++ _ ++ _ ++ _ ++ _ ++ _
  rw [← front, List.intercalate_singleton]
  simp only [List.append_assoc]
  rfl

/-- A description is the statements of its model, one after the other. -/
theorem text_eq_described (m : Model) :
    Description.text m = "digraph ERD \x7b\n".toList ++
      (modelStatements m).flatMap Statement.described ++ "\x7d\n".toList := by
  have opening : Description.opening = "digraph ERD \x7b\n".toList ++
      (Statement.graph [("rankdir", direction.toList)]).described := by decide
  rw [modelStatements, List.flatMap_append, List.flatMap_cons, List.flatMap_map, List.flatMap_map]
  simp only [described_entityStatement, described_relationshipStatement]
  rw [Description.text, opening]
  simp only [List.append_assoc]
  rfl

theorem text_ofGraph {m : Model} {g : Graph} (accepted : (Graph.ofModel m).value = .ok g) :
    (ofGraph g).text =
      "digraph ERD \x7b\n".toList ++ (modelStatements m).flatMap Statement.line ++ ['}'] := by
  have opening : "digraph ".toList ++ "ERD".toList ++ " \x7b\n".toList =
    "digraph ERD \x7b\n".toList := by decide
  rw [ofGraph_eq accepted]
  exact congrArg (· ++ (modelStatements m).flatMap Statement.line ++ ['}']) opening

end Digraph

/-! ## Reading statements -/

namespace Statement

/-- The statements of a text that ends a body. -/
def ofText? (cs : List Char) : Option (List Statement) := (Token.tokens? cs).bind body?

/-- Whatever follows `text`, it is read as the statement `s`. -/
def Reads (text : List Char) (s : Statement) : Prop :=
  ∀ rest, ofText? (text ++ rest) = (ofText? rest).map (s :: ·)

theorem body?_closeBody : body? [.closeBody] = some [] := by
  rw [body?.eq_def]

theorem body?_semicolon (rest : List Token) : body? (.semicolon :: rest) = body? rest := by
  rw [body?.eq_def]

theorem body?_append {s : Statement} {tokens : List Token}
    (first : ∀ rest, ofTokens? (tokens ++ rest) = some (s, rest)) (nonempty : tokens ≠ [])
    (rest : List Token) : body? (tokens ++ rest) = (body? rest).map (s :: ·) := by
  have shorter : rest.length < (tokens ++ rest).length := by
    have some := List.length_pos_iff.mpr nonempty
    rw [List.length_append]
    omega
  have head := first rest
  rw [body?.eq_def]
  split
  · next last => rw [last] at head; cases head
  · next mark => rw [mark] at head; cases head
  · simp only [head, if_pos shorter]

/-- A statement that no semicolon follows. -/
theorem reads_of_lexes {text : List Char} {tokens : List Token} {s : Statement}
    (lexes : Token.Lexes text tokens) (first : ∀ rest, ofTokens? (tokens ++ rest) = some (s, rest))
    (nonempty : tokens ≠ []) : Reads text s := by
  intro rest
  rw [ofText?, ofText?, lexes]
  cases Token.tokens? rest with
  | none => rfl
  | some after => exact body?_append first nonempty after

/-- A statement that a semicolon follows. -/
theorem reads_of_lexes_semicolon {text : List Char} {tokens : List Token} {s : Statement}
    (lexes : Token.Lexes text (tokens ++ [.semicolon]))
    (first : ∀ rest, ofTokens? (tokens ++ rest) = some (s, rest)) (nonempty : tokens ≠ []) :
    Reads text s := by
  intro rest
  rw [ofText?, ofText?, lexes]
  cases Token.tokens? rest with
  | none => rfl
  | some after =>
    change body? (tokens ++ [.semicolon] ++ after) = _
    rw [List.append_assoc, body?_append first nonempty]
    exact congrArg _ (body?_semicolon after)

theorem ofText?_flatMap {print : Statement → List Char} {ss : List Statement}
    (reads : ∀ s ∈ ss, Reads (print s) s) {last : List Char}
    (closes : Token.Lexes last [.closeBody]) : ofText? (ss.flatMap print ++ last) = some ss := by
  induction ss with
  | nil =>
    have lexed := closes []
    rw [List.append_nil, Token.tokens?_nil] at lexed
    rw [List.flatMap_nil, List.nil_append, ofText?, lexed]
    exact body?_closeBody
  | cons s ss ih =>
    rw [List.forall_mem_cons] at reads
    rw [List.flatMap_cons, List.append_assoc, reads.1, ih reads.2]
    rfl

/-! ## The tokens of statements -/

/-- The tokens of an entity's statement, with what stands between its attributes. -/
def entityTokens (separators : List Token) (e : Entity) : List Token :=
  [.id (quotedName e.name), .openList, .id "shape".toList, .equals, .id "plaintext".toList] ++
    separators ++
    [.id "label".toList, .equals, .id ('<' :: Label.markup e ++ ['>']), .closeList]

def relationshipTokens (r : Relationship) : List Token :=
  [.id (quotedName r.source), .arrow, .id (quotedName r.target), .openList, .id "label".toList,
    .equals, .id (quotedName r.relation), .closeList]

theorem ofTokens?_entityTokens {separators : List Token}
    (comma : separators = [] ∨ separators = [.comma]) (e : Entity) (rest : List Token) :
    ofTokens? (entityTokens separators e ++ rest) = some (Digraph.entityStatement e, rest) := by
  have name : quotedName e.name ≠ "graph".toList := by
    intro same
    cases (List.cons.inj same).1
  rcases comma with rfl | rfl
  all_goals
    simp only [entityTokens, List.cons_append, List.nil_append, ofTokens?, attributes?,
      Option.map_some, if_neg name]
    rfl

theorem ofTokens?_relationshipTokens (r : Relationship) (rest : List Token) :
    ofTokens? (relationshipTokens r ++ rest) = some (Digraph.relationshipStatement r, rest) := by
  simp only [relationshipTokens, List.cons_append, List.nil_append, ofTokens?, attributes?,
    Option.map_some]
  rfl

section Tokens

open Token

theorem lexes_indent : Lexes "  ".toList [] := lexes_space rfl (lexes_space rfl lexes_nil)

theorem lexes_direction_described :
    Lexes (graph [("rankdir", direction.toList)]).described
      ([.id "rankdir".toList, .equals, .id "LR".toList] ++ [.semicolon]) := by
  have text : (graph [("rankdir", direction.toList)]).described =
      "rankdir".toList ++ '=' :: ("LR".toList ++ [';', '\n']) := by decide
  rw [text]
  exact lexes_word (by decide +kernel) rfl (lexes_mark rfl (lexes_word (by decide +kernel) rfl
    (lexes_mark rfl (lexes_space rfl lexes_nil))))

theorem lexes_direction_line :
    Lexes (graph [("rankdir", direction.toList)]).line
      [.id "graph".toList, .openList, .id "rankdir".toList, .equals, .id "LR".toList,
        .closeList] := by
  have front : Lexes ("graph".toList ++ '[' :: ("rankdir".toList ++ '=' ::
      ("LR".toList ++ [']', '\n']))) _ :=
    lexes_word (by decide +kernel) rfl (lexes_mark rfl (lexes_word (by decide +kernel) rfl
      (lexes_mark rfl (lexes_word (by decide +kernel) rfl (lexes_mark rfl
        (lexes_space rfl lexes_nil))))))
  have text : (graph [("rankdir", direction.toList)]).line = "  ".toList ++
      ("graph".toList ++ '[' :: ("rankdir".toList ++ '=' :: ("LR".toList ++ [']', '\n']))) := by
    decide
  rw [text]
  exact lexes_indent.append front

theorem lexes_entity_described (e : Entity) :
    Lexes (Digraph.entityStatement e).described (entityTokens [.comma] e ++ [.semicolon]) := by
  have front : Lexes (' ' :: '[' :: ("shape".toList ++ '=' :: ("plaintext".toList ++ ',' :: ' ' ::
      ("label".toList ++ ['='])))) [.openList, .id "shape".toList, .equals,
        .id "plaintext".toList, .comma, .id "label".toList, .equals] :=
    lexes_space rfl (lexes_mark rfl (lexes_word (by decide +kernel) rfl (lexes_mark rfl
      (lexes_word (by decide +kernel) rfl (lexes_mark rfl (lexes_space rfl
        (lexes_word (by decide +kernel) rfl (lexes_mark rfl lexes_nil))))))))
  have back : Lexes [']', ';', '\n'] [.closeList, .semicolon] :=
    lexes_mark rfl (lexes_mark rfl (lexes_space rfl lexes_nil))
  have text : (Digraph.entityStatement e).described = quotedName e.name ++
      (' ' :: '[' :: ("shape".toList ++ '=' :: ("plaintext".toList ++ ',' :: ' ' ::
        ("label".toList ++ ['='])))) ++ ('<' :: Label.markup e ++ ['>']) ++ [']', ';', '\n'] := by
    rw [Digraph.described_entityStatement]
    change _ ++ _ ++ _ ++ _ = _
    simp only [List.append_assoc]
    rfl
  rw [text]
  exact (((lexes_quotedName e.name).append front).append (lexes_markup e)).append back

theorem lexes_entity_line (e : Entity) :
    Lexes (Digraph.entityStatement e).line (entityTokens [] e) := by
  have front : Lexes ('[' :: ("shape".toList ++ '=' :: ("plaintext".toList ++ ' ' ::
      ("label".toList ++ ['='])))) [.openList, .id "shape".toList, .equals,
        .id "plaintext".toList, .id "label".toList, .equals] :=
    lexes_mark rfl (lexes_word (by decide +kernel) rfl (lexes_mark rfl
      (lexes_word (by decide +kernel) rfl (lexes_space rfl
        (lexes_word (by decide +kernel) rfl (lexes_mark rfl lexes_nil))))))
  have back : Lexes [']', '\n'] [.closeList] := lexes_mark rfl (lexes_space rfl lexes_nil)
  have text : (Digraph.entityStatement e).line =
      "  ".toList ++ quotedName e.name ++ ('[' :: ("shape".toList ++ '=' :: ("plaintext".toList ++
        ' ' :: ("label".toList ++ ['='])))) ++ ('<' :: Label.markup e ++ ['>']) ++ [']', '\n'] := by
    simp only [line, Digraph.entityStatement, Statement.text, attributeList, List.intercalate,
      List.map_cons, List.map_nil, List.intersperse_cons_cons, List.intersperse_singleton,
      List.flatten_cons, List.flatten_nil, List.append_nil, List.append_assoc, List.cons_append,
      List.nil_append]
  rw [text]
  exact (((lexes_indent.append (lexes_quotedName e.name)).append front).append
    (lexes_markup e)).append back

/-- Both texts write a relationship in the same way up to the end of its list. -/
theorem lexes_relationship (r : Relationship) :
    Lexes (quotedName r.source ++ " -> ".toList ++ quotedName r.target ++
      (' ' :: '[' :: ("label".toList ++ ['='])) ++ quotedName r.relation ++ [']'])
      (relationshipTokens r) := by
  have arrow : Lexes " -> ".toList [.arrow] :=
    lexes_space rfl (lexes_arrow (lexes_space rfl lexes_nil))
  have front : Lexes (' ' :: '[' :: ("label".toList ++ ['=']))
      [.openList, .id "label".toList, .equals] :=
    lexes_space rfl (lexes_mark rfl (lexes_word (by decide +kernel) rfl (lexes_mark rfl lexes_nil)))
  exact (((((lexes_quotedName r.source).append arrow).append (lexes_quotedName r.target)).append
    front).append (lexes_quotedName r.relation)).append (lexes_mark rfl lexes_nil)

theorem lexes_relationship_described (r : Relationship) :
    Lexes (Digraph.relationshipStatement r).described (relationshipTokens r ++ [.semicolon]) := by
  have back : Lexes [';', '\n'] [.semicolon] := lexes_mark rfl (lexes_space rfl lexes_nil)
  have text : (Digraph.relationshipStatement r).described = quotedName r.source ++ " -> ".toList ++
      quotedName r.target ++ (' ' :: '[' :: ("label".toList ++ ['='])) ++ quotedName r.relation ++
        [']'] ++ [';', '\n'] := by
    rw [Digraph.described_relationshipStatement]
    change _ ++ _ ++ _ ++ _ ++ _ ++ _ = _
    simp only [List.append_assoc]
    rfl
  rw [text]
  exact (lexes_relationship r).append back

theorem lexes_relationship_line (r : Relationship) :
    Lexes (Digraph.relationshipStatement r).line (relationshipTokens r) := by
  have back : Lexes ['\n'] [] := lexes_space rfl lexes_nil
  have text : (Digraph.relationshipStatement r).text = quotedName r.source ++ " -> ".toList ++
      quotedName r.target ++ (' ' :: '[' :: ("label".toList ++ ['='])) ++ quotedName r.relation ++
        [']'] := by
    change _ ++ _ ++ _ ++ _ ++ ('[' :: List.intercalate _ ["label".toList ++ '=' :: _] ++ _) = _
    rw [List.intercalate_singleton]
    simp only [List.append_assoc]
    rfl
  have line := (lexes_indent.append (lexes_relationship r)).append back
  rw [List.append_nil, ← text] at line
  exact line

end Tokens

theorem reads_described {m : Model} {s : Statement} (member : s ∈ Digraph.modelStatements m) :
    Reads s.described s := by
  rw [Digraph.modelStatements, List.mem_append, List.mem_cons, List.mem_map, List.mem_map] at member
  rcases member with (rfl | ⟨e, -, rfl⟩) | ⟨r, -, rfl⟩
  · exact reads_of_lexes_semicolon lexes_direction_described (fun _ => rfl) (List.cons_ne_nil _ _)
  · exact reads_of_lexes_semicolon (lexes_entity_described e)
      (ofTokens?_entityTokens (.inr rfl) e) (List.cons_ne_nil _ _)
  · exact reads_of_lexes_semicolon (lexes_relationship_described r)
      (ofTokens?_relationshipTokens r) (List.cons_ne_nil _ _)

theorem reads_line {m : Model} {s : Statement} (member : s ∈ Digraph.modelStatements m) :
    Reads s.line s := by
  rw [Digraph.modelStatements, List.mem_append, List.mem_cons, List.mem_map, List.mem_map] at member
  rcases member with (rfl | ⟨e, -, rfl⟩) | ⟨r, -, rfl⟩
  · exact reads_of_lexes lexes_direction_line (fun _ => rfl) (List.cons_ne_nil _ _)
  · exact reads_of_lexes (lexes_entity_line e)
      (ofTokens?_entityTokens (.inl rfl) e) (List.cons_ne_nil _ _)
  · exact reads_of_lexes (lexes_relationship_line r)
      (ofTokens?_relationshipTokens r) (List.cons_ne_nil _ _)

end Statement

/-! ## What both texts are read as -/

namespace Digraph

open Token in
theorem read?_of_body {body : List Char} {statements : List Statement}
    (read : Statement.ofText? body = some statements) :
    read? (String.ofList ("digraph ERD \x7b\n".toList ++ body)) =
      some { name := "ERD", statements } := by
  have front : Lexes ("digraph".toList ++ ' ' :: ("ERD".toList ++ ' ' :: ['{', '\n']))
      [.id "digraph".toList, .id "ERD".toList, .openBody] :=
    lexes_word (by decide +kernel) rfl (lexes_space rfl (lexes_word (by decide +kernel) rfl
      (lexes_space rfl (lexes_mark rfl (lexes_space rfl lexes_nil)))))
  obtain ⟨tokens, lexed, parsed⟩ := Option.bind_eq_some_iff.mp read
  have whole : tokens? ("digraph ERD \x7b\n".toList ++ body) =
      some (.id "digraph".toList :: .id "ERD".toList :: .openBody :: tokens) := by
    have text := front body
    rw [lexed] at text
    exact text
  rw [read?, String.toList_ofList, whole]
  simp only [if_pos, parsed, Option.map_some]
  rfl

theorem read?_describe (m : Model) :
    read? (Description.describe m) = some { name := "ERD", statements := modelStatements m } := by
  have close : Token.Lexes "\x7d\n".toList [.closeBody] :=
    Token.lexes_mark rfl (Token.lexes_space rfl Token.lexes_nil)
  rw [Description.describe, text_eq_described, List.append_assoc]
  exact read?_of_body (Statement.ofText?_flatMap (fun _ => Statement.reads_described) close)

theorem read?_render {m : Model} {g : Graph} (accepted : (Graph.ofModel m).value = .ok g) :
    read? (ofGraph g).render = some (ofGraph g) := by
  have close : Token.Lexes ['}'] [.closeBody] := Token.lexes_mark rfl Token.lexes_nil
  rw [render, text_ofGraph accepted, List.append_assoc, ofGraph_eq accepted]
  exact read?_of_body (Statement.ofText?_flatMap (fun _ => Statement.reads_line) close)

/-- A model that can be laid out has one digraph, and both its texts are that digraph: the same
statements in the same order, one for the direction, one for each entity and one for each
relationship, each in the spelling of its text. Both are read back as it. -/
theorem texts_agree {m : Model} {g : Graph} (accepted : (Graph.ofModel m).value = .ok g) :
    (ofGraph g).statements = .graph [("rankdir", direction.toList)] ::
        m.entities.map entityStatement ++ m.relationships.map relationshipStatement ∧
      (ofGraph g).statements.length = 1 + m.entities.length + m.relationships.length ∧
      (ofGraph g).text =
        "digraph ERD \x7b\n".toList ++ (ofGraph g).statements.flatMap Statement.line ++ ['}'] ∧
      Description.text m = "digraph ERD \x7b\n".toList ++
        (ofGraph g).statements.flatMap Statement.described ++ "\x7d\n".toList ∧
      read? (ofGraph g).render = some (ofGraph g) ∧
      read? (Description.describe m) = some (ofGraph g) := by
  have statements : (ofGraph g).statements = modelStatements m := by rw [ofGraph_eq accepted]
  refine ⟨statements, ?_, ?_, ?_, read?_render accepted, ?_⟩
  · rw [statements, modelStatements, List.length_append, List.length_cons, List.length_map,
      List.length_map]
    omega
  · rw [statements]
    exact text_ofGraph accepted
  · rw [statements]
    exact text_eq_described m
  · rw [ofGraph_eq accepted]
    exact read?_describe m

/-- A name that ends in a backslash and one that looks like the end of a statement. -/
theorem texts_agree_special_names :
    let e : Entity := { name := "a\"\\", attributes := [{ name := "x>", primary := true }] }
    let r : Relationship := { source := e.name, target := e.name, relation := "];\n\x7d" }
    let m : Model := { stored := [(e.name, e)], relationships := [r] }
    let g : Graph := { nodes := [Graph.nodeOf e], edges := [Graph.edgeOf r] }
    (Graph.ofModel m).value = .ok g ∧ read? (ofGraph g).render = read? (Description.describe m) ∧
      (ofGraph g).statements.length = 3 := by
  intro e r m g
  have accepted : (Graph.ofModel m).value = .ok g := rfl
  obtain ⟨-, length, -, -, rendered, described⟩ := texts_agree accepted
  exact ⟨accepted, rendered.trans described.symm, length⟩

end Digraph

end EntityDiagram
