import EntityDiagram.Proofs.Source.Printing

/-! # Reading back what was printed

Each printed line has the form of its declaration, so it is classified as that declaration; the
lines of a text come back as they were written; and declarations with new names are registered at
the end, in order. Together they give the model back.
-/

namespace EntityDiagram

open Text

/-! ## Attribute lists -/

theorem Attribute.attribute?_print {a : Attribute} (writable : a.Writable) :
    Line.attribute? a.print = some a := by
  have starless : a.name.toList.filter (· ≠ '*') = a.name.toList := by
    rw [List.filter_eq_self]
    intro c member
    exact decide_eq_true fun star => writable.star (star ▸ member)
  have unstarred : a.print.filter (· ≠ '*') = a.name.toList := by
    rw [Attribute.print, List.filter_append, starless]
    cases a.primary <;> simp
  have starred : a.print.contains '*' = a.primary := by
    rw [Attribute.print]
    cases a.primary <;> simp [writable.star]
  rw [Line.attribute?, unstarred, trim_of_trimmed writable.trimmed, starred]
  split
  · next empty => exact absurd empty writable.nonempty
  · have foreign := writable.foreign
    rw [String.ofList_toList]
    cases a
    rw [← foreign]

theorem Attribute.not_mem_print {a : Attribute} {c : Char} (absent : c ∉ a.name.toList)
    (other : c ≠ '*') : c ∉ a.print := by
  rw [Attribute.print]
  cases a.primary <;> simp [absent, other]

theorem attributes_printList {attributes : List Attribute}
    (writable : ∀ a ∈ attributes, a.Writable) :
    Line.attributes (List.intercalate ", ".toList (attributes.map Attribute.print)) = attributes := by
  induction attributes with
  | nil => rfl
  | cons a rest ih =>
    have head := writable a (List.mem_cons_self ..)
    have read : Line.attributes a.print = [a] := by
      rw [Line.attributes_of_not_mem (Attribute.not_mem_print head.comma (by decide)),
        Attribute.attribute?_print head]
      rfl
    cases rest with
    | nil => rw [List.map_cons, List.map_nil, List.intercalate_singleton, read]
    | cons b others =>
      have tail := ih fun c member => writable c (List.mem_cons_of_mem _ member)
      rw [List.map_cons] at tail
      rw [List.map_cons, List.map_cons, List.intercalate_cons_cons, List.append_assoc]
      change Line.attributes (a.print ++ ',' :: (' ' :: List.intercalate ", ".toList _)) = _
      rw [Line.attributes_append, Line.attributes_cons_blank, read, tail]
      rfl

theorem not_mem_intercalate {c : Char} {sep : List Char} {pieces : List (List Char)}
    (separator : c ∉ sep) (absent : ∀ piece ∈ pieces, c ∉ piece) :
    c ∉ List.intercalate sep pieces := by
  induction pieces with
  | nil => exact List.not_mem_nil
  | cons piece rest ih =>
    have tail := ih fun other member => absent other (List.mem_cons_of_mem _ member)
    cases rest with
    | nil => simpa using absent piece (List.mem_cons_self ..)
    | cons next others =>
      rw [List.intercalate_cons_cons]
      exact List.not_mem_append
        (List.not_mem_append (absent piece (List.mem_cons_self ..)) separator) tail

/-! ## Lines -/

/-- A line of its own that declares `declaration` and nothing else. -/
structure Reads (line : List Char) (declaration : Line) : Prop where
  nonempty : line ≠ []
  whole : '\n' ∉ line
  read : Document.lineOf line = declaration

namespace Entity

variable {e : Entity}

theorem print_eq (e : Entity) : e.print =
    "Entity: ".toList ++ (e.name.toList ++ (" [".toList ++ (e.printList ++ "]".toList))) := by
  change _ ++ _ ++ _ ++ _ ++ _ = _
  simp only [List.append_assoc]

theorem print_trimmed (e : Entity) : Trimmed e.print := by
  refine ⟨?_, Stops.reverse_append (by decide) (by decide) _⟩
  rw [print_eq]
  exact Stops.append (by decide) (by decide) _

theorem print_whole (writable : e.Writable) : '\n' ∉ e.print := by
  have list : '\n' ∉ e.printList := by
    refine not_mem_intercalate (by decide) fun item member => ?_
    obtain ⟨a, listed, rfl⟩ := List.mem_map.mp member
    exact Attribute.not_mem_print (writable.attributes a listed).feed (by decide)
  rw [print_eq]
  exact List.not_mem_append (by decide) (List.not_mem_append (writable.name.not_mem (by decide))
    (List.not_mem_append (by decide) (List.not_mem_append list (by decide))))

/-- The pieces of a printed entity. -/
def form (e : Entity) (writable : e.Writable) : Line.EntityForm where
  margin := [' ']
  name := e.name.toList
  list := { gap := [' '], inside := e.printList, rest := [], blanks := by decide, free := by simp }
  margin_blanks := by decide
  name_word := writable.name

theorem form_text (writable : e.Writable) : (e.form writable).text = e.print :=
  e.print_eq.symm

theorem form_entity (writable : e.Writable) : (e.form writable).entity = e := by
  rw [Line.EntityForm.entity, form, String.ofList_toList, printList,
    attributes_printList writable.attributes]

theorem print_reads (writable : e.Writable) : Reads e.print (.entity e) := by
  refine ⟨by rw [print_eq]; exact List.cons_ne_nil _ _, print_whole writable, ?_⟩
  rw [Document.lineOf, trim_of_trimmed e.print_trimmed]
  exact Line.classify_eq_entity_iff.mpr ⟨e.form writable, form_text writable, form_entity writable⟩

end Entity

namespace Relationship

variable {r : Relationship} {tail : List Char}

theorem printEnds_append (r : Relationship) (tail : List Char) :
    r.printEnds ++ tail = "Relationship: ".toList ++ (r.source.toList ++ (" -- ".toList ++
      (r.relation.toList ++ (" --> ".toList ++ (r.target.toList ++ tail))))) := by
  change _ ++ _ ++ _ ++ _ ++ _ ++ _ ++ tail = _
  simp only [List.append_assoc]

theorem printEnds_trimmed (writable : r.Writable)
    (last : Stops isWhiteSpace (r.target.toList ++ tail).reverse) :
    Trimmed (r.printEnds ++ tail) := by
  refine ⟨?_, ?_⟩
  · rw [printEnds_append]
    exact Stops.append (by decide) (by decide) _
  · change Stops isWhiteSpace (_ ++ _ ++ tail).reverse
    rw [List.append_assoc]
    exact last.reverse_append (List.append_ne_nil_of_left_ne_nil writable.target.nonempty _) _

theorem printEnds_whole (writable : r.Writable) (whole : '\n' ∉ tail) :
    '\n' ∉ r.printEnds ++ tail := by
  rw [printEnds_append]
  exact List.not_mem_append (by decide) (List.not_mem_append (writable.source.not_mem (by decide))
    (List.not_mem_append (by decide) (List.not_mem_append (writable.relation.not_mem (by decide))
      (List.not_mem_append (by decide)
        (List.not_mem_append (writable.target.not_mem (by decide)) whole)))))

/-- The pieces of printed ends with some text behind them. -/
def form (r : Relationship) (writable : r.Writable) (tail : List Char)
    (stops : Stops isWordChar tail) : Line.RelationshipForm where
  margin := [' ']
  source := r.source.toList
  beforeLine := [' ']
  afterLine := [' ']
  relation := r.relation.toList
  beforeArrow := [' ']
  afterArrow := [' ']
  target := r.target.toList
  tail := tail
  margin_blanks := by decide
  source_word := writable.source
  beforeLine_blanks := by decide
  afterLine_blanks := by decide
  relation_word := writable.relation
  beforeArrow_blanks := by decide
  afterArrow_blanks := by decide
  target_word := writable.target
  tail_stops := stops

theorem printEnds_reads (writable : r.Writable) (stops : Stops isWordChar tail)
    (last : Stops isWhiteSpace (r.target.toList ++ tail).reverse) (whole : '\n' ∉ tail)
    (given : Line.Cardinality tail r.cardinality) :
    Reads (r.printEnds ++ tail) (.relationship r) := by
  have written : (r.form writable tail stops).text = r.printEnds ++ tail :=
    (r.printEnds_append tail).symm
  have declared : (r.form writable tail stops).relationship = r :=
    (r.form writable tail stops).declares_iff.mp
      ⟨String.ofList_toList.symm, String.ofList_toList.symm, String.ofList_toList.symm, given⟩
  refine ⟨by rw [printEnds_append]; exact List.cons_ne_nil _ _, printEnds_whole writable whole, ?_⟩
  rw [Document.lineOf, trim_of_trimmed (printEnds_trimmed writable last)]
  exact Line.classify_eq_relationship_iff.mpr ⟨_, written, declared⟩

/-- The cardinality in its parentheses. -/
def enclosed (r : Relationship) : Line.Enclosed '(' ')' where
  gap := [' ']
  inside := r.cardinality.toList
  rest := []
  blanks := by decide
  free := by simp

theorem enclosed_text (r : Relationship) :
    r.enclosed.text = " (".toList ++ (r.cardinality.toList ++ ")".toList) := rfl

theorem print_eq (r : Relationship) : r.print = r.printEnds ++ r.enclosed.text := by
  change _ ++ _ ++ _ ++ _ = _
  rw [List.append_assoc, List.append_assoc, enclosed_text]

theorem enclosed_given (writable : r.Writable) :
    Line.Cardinality r.enclosed.text r.cardinality := by
  rw [← String.ofList_toList (s := r.cardinality)]
  exact .given r.enclosed rfl writable.given

theorem print_reads (writable : r.Writable) : Reads r.print (.relationship r) := by
  have closed : Stops isWhiteSpace (r.cardinality.toList ++ ")".toList).reverse :=
    Stops.reverse_append (by decide) (by decide) _
  have last : Stops isWhiteSpace (r.target.toList ++ r.enclosed.text).reverse := by
    rw [enclosed_text]
    exact (closed.reverse_append (by simp) _).reverse_append (List.cons_ne_nil _ _) _
  have whole : '\n' ∉ r.enclosed.text := by
    rw [enclosed_text]
    exact List.not_mem_append (by decide) (List.not_mem_append writable.feed (by decide))
  rw [print_eq]
  exact printEnds_reads writable (r.enclosed.stops_word (by decide)) last whole
    (enclosed_given writable)

theorem Prints.reads {line : List Char} (printed : r.Prints line) (writable : r.Writable) :
    Reads line (.relationship r) := by
  cases printed with
  | full => exact print_reads writable
  | brief usual =>
    have given : Line.Cardinality [] r.cardinality := by
      rw [usual]
      refine .implied fun piece written => ?_
      cases (List.append_eq_nil_iff.mp written).2
    have last : Stops isWhiteSpace (r.target.toList ++ []).reverse := by
      rw [List.append_nil]
      exact writable.target.stops_space_reverse
    rw [← List.append_nil r.printEnds]
    exact printEnds_reads writable stops_nil last List.not_mem_nil given

end Relationship

/-! ## Texts -/

theorem TextOf.lines_eq {written : List (List Char)} {text : List Char}
    (textOf : TextOf written text) (reads : ∀ line ∈ written, ∃ declaration, Reads line declaration) :
    lines text = written := by
  induction textOf with
  | nil => rfl
  | last line =>
    obtain ⟨_, read⟩ := reads line (List.mem_cons_self ..)
    exact lines_of_not_mem read.whole read.nonempty
  | line line rest ih =>
    obtain ⟨_, read⟩ := reads line (List.mem_cons_self ..)
    rw [lines_cons read.whole, ih fun other member => reads other (List.mem_cons_of_mem _ member)]

section Listings

variable {es : List Entity} {rs : List Relationship} {lines : List (List Char)}

theorem Listing.reads (listing : Listing es rs lines) (entities : ∀ e ∈ es, e.Writable)
    (relationships : ∀ r ∈ rs, r.Writable) : ∀ line ∈ lines, ∃ declaration, Reads line declaration := by
  induction listing with
  | nil => exact fun line member => absurd member List.not_mem_nil
  | entity e rest ih =>
    have head := entities e (List.mem_cons_self ..)
    exact List.forall_mem_cons.mpr ⟨⟨_, Entity.print_reads head⟩,
      ih (fun f member => entities f (List.mem_cons_of_mem _ member)) relationships⟩
  | relationship r printed rest ih =>
    have head := relationships r (List.mem_cons_self ..)
    exact List.forall_mem_cons.mpr ⟨⟨_, printed.reads head⟩,
      ih entities fun s member => relationships s (List.mem_cons_of_mem _ member)⟩

/-- Reading printed declarations with new names adds them behind what is there. -/
theorem Listing.declares (listing : Listing es rs lines) (entities : ∀ e ∈ es, e.Writable)
    (relationships : ∀ r ∈ rs, r.Writable) (m : Model)
    (fresh : ((m.entities ++ es).map Entity.name).Nodup) :
    ((lines.map Document.lineOf).foldl Model.declare m).entities = m.entities ++ es ∧
      ((lines.map Document.lineOf).foldl Model.declare m).relationships = m.relationships ++ rs := by
  induction listing generalizing m with
  | nil => simp
  | entity e rest ih =>
    have read := (Entity.print_reads (entities e (List.mem_cons_self ..))).read
    have absent : e.name ∉ m.entities.map Entity.name := by
      rw [List.map_append, List.nodup_append] at fresh
      exact fun member => fresh.2.2 _ member _ (List.mem_cons_self ..) rfl
    have last := Model.insert_of_not_mem absent
    have step := ih (fun f member => entities f (List.mem_cons_of_mem _ member)) relationships
      (m.declare (.entity e)) (by rw [Model.declare, last, List.append_assoc]; exact fresh)
    rw [List.map_cons, List.foldl_cons, read, step.1, step.2, Model.declare, last, List.append_assoc]
    exact ⟨rfl, rfl⟩
  | relationship r printed rest ih =>
    have read := (printed.reads (relationships r (List.mem_cons_self ..))).read
    have step := ih entities (fun s member => relationships s (List.mem_cons_of_mem _ member))
      (m.declare (.relationship r)) fresh
    rw [List.map_cons, List.foldl_cons, read, step.1, step.2, Model.declare, Model.relate,
      List.append_assoc]
    exact ⟨rfl, rfl⟩

end Listings

/-- A writable model is what every text that prints it reads as. -/
theorem Document.parse_print {m : Model} {text : String} (writable : m.Writable)
    (prints : m.Prints text) : (parse text).value = m := by
  obtain ⟨written, listing, textOf⟩ := prints
  have split := textOf.lines_eq (listing.reads writable.entities writable.relationships)
  obtain ⟨entities, relationships⟩ := listing.declares writable.entities writable.relationships
    .empty m.nodup_names
  rw [parse_value, split]
  exact Model.ext entities relationships

/-- Brackets, quotes and blanks in names and cardinalities, and an end that is not declared. -/
theorem Document.parse_print_brackets :
    let maß : Entity := {
      name := "Maß_1"
      attributes := [{ name := "a [b] \"c\" d", primary := true }, { name := "]" }] }
    let leer : Entity := { name := "Leer" }
    let has : Relationship := { source := "Leer", target := "X", relation := "hat" }
    let holds : Relationship :=
      { source := "Maß_1", target := "Leer", relation := "in", cardinality := " (0..N)) " }
    let m : Model := {
      stored := [("Maß_1", maß), ("Leer", leer)]
      relationships := [has, holds]
      distinct := by decide
      keyed := by decide }
    let text := "Relationship: Leer -- hat --> X\nEntity: Maß_1 [a [b] \"c\" d*, ]]\n" ++
      "Entity: Leer []\nRelationship: Maß_1 -- in --> Leer ( (0..N)) )"
    m.Writable ∧ m.Prints text ∧ (parse text).value = m := by
  intro maß leer has holds m text
  have writable : m.Writable := by decide
  have prints : m.Prints text := by
    refine ⟨[has.printEnds, maß.print, leer.print, holds.print], ?_, ?_⟩
    · exact .relationship has (.brief rfl)
        (.entity maß (.entity leer (.relationship holds .full .nil)))
    · have written : text.toList = has.printEnds ++ '\n' :: (maß.print ++ '\n' ::
          (leer.print ++ '\n' :: holds.print)) := by decide +kernel
      rw [written]
      exact .line _ (.line _ (.line _ (.last _)))
  exact ⟨writable, prints, parse_print writable prints⟩

end EntityDiagram
