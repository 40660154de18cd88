import EntityDiagram.Proofs.Model.Merge
import Mathlib.Logic.Relation

/-! # Noise between declarations

A text may be edited in many ways without a change to what it declares: lines that declare nothing
come and go, white space is put at the ends of lines or taken away, a line feed gets a carriage
return in front of it, and a last line feed is there or not. All of these keep the telling lines of
the text, which are its trimmed lines that declare something, and the model depends on those alone.
The edits are also enough to turn any two texts with the same telling lines into each other: each
of them can be edited into its telling lines and nothing else.
-/

namespace EntityDiagram.Document

open Text

/-! ## Edits -/

/-- What follows `before` begins a line. -/
def AtStart (before : List Char) : Prop := before = [] ∨ ∃ earlier, before = earlier ++ ['\n']

/-- What precedes `after` ends a line. -/
def AtEnd (after : List Char) : Prop := after = [] ∨ ∃ later, after = '\n' :: later

/-- One edit, which adds something. To take it away is the same edit from right to left. -/
inductive Edit : List Char → List Char → Prop
  /-- A line that declares nothing, in front of another line or behind the last line feed. -/
  | noise (before line after : List Char) (start : AtStart before) (whole : '\n' ∉ line)
      (idle : lineOf line = .unmatched) : Edit (before ++ after) (before ++ (line ++ '\n' :: after))
  /-- A line that declares nothing, behind a last line without a line feed. -/
  | lastNoise (text line : List Char) (whole : '\n' ∉ line) (idle : lineOf line = .unmatched) :
      Edit text (text ++ '\n' :: line)
  | margin (before gap after : List Char) (start : AtStart before) (white : White gap)
      (whole : '\n' ∉ gap) : Edit (before ++ after) (before ++ (gap ++ after))
  | trail (before gap after : List Char) (ends : AtEnd after) (white : White gap)
      (whole : '\n' ∉ gap) : Edit (before ++ after) (before ++ (gap ++ after))
  | carriage (before after : List Char) :
      Edit (before ++ '\n' :: after) (before ++ '\r' :: '\n' :: after)
  | terminator (text : List Char) : Edit text (text ++ ['\n'])

/-! ## Telling lines -/

/-- The lines that declare something, without the white space around them. -/
def tellingLines (text : List Char) : List (List Char) :=
  ((splitAt '\n' text).map trim).filter fun line => Line.classify line ≠ .unmatched

variable {before after line gap : List Char}

theorem tellingLines_nil : tellingLines [] = [] := by decide

theorem tellingLines_feed (before after : List Char) :
    tellingLines (before ++ '\n' :: after) = tellingLines before ++ tellingLines after := by
  simp only [tellingLines, splitAt_append, List.map_append, List.filter_append]

theorem tellingLines_line (whole : '\n' ∉ line) :
    tellingLines line = if lineOf line = .unmatched then [] else [trim line] := by
  rw [tellingLines, splitAt_of_not_mem whole, lineOf]
  split
  · next idle => simp [idle]
  · next telling => simp [telling]

theorem tellingLines_idle (whole : '\n' ∉ line) (idle : lineOf line = .unmatched) :
    tellingLines line = [] := by
  rw [tellingLines_line whole, if_pos idle]

theorem AtStart.tellingLines (start : AtStart before) (rest : List Char) :
    tellingLines (before ++ rest) = tellingLines before ++ tellingLines rest := by
  rcases start with rfl | ⟨earlier, rfl⟩
  · rw [tellingLines_nil]
    rfl
  · rw [List.append_assoc, List.singleton_append, tellingLines_feed, tellingLines_feed,
      tellingLines_nil, List.append_nil]

theorem AtEnd.tellingLines (ends : AtEnd after) (front : List Char) :
    tellingLines (front ++ after) = tellingLines front ++ tellingLines after := by
  rcases ends with rfl | ⟨later, rfl⟩
  · rw [tellingLines_nil, List.append_nil, List.append_nil]
  · have opened := tellingLines_feed [] later
    rw [tellingLines_nil, List.nil_append, List.nil_append] at opened
    rw [tellingLines_feed, opened]

theorem tellingLines_margin (white : White gap) (whole : '\n' ∉ gap) (rest : List Char) :
    tellingLines (gap ++ rest) = tellingLines rest := by
  induction gap with
  | nil => rfl
  | cons c gap ih =>
    rw [White, List.forall_mem_cons] at white
    rw [List.mem_cons, not_or] at whole
    obtain ⟨piece, pieces, split⟩ := List.exists_cons_of_ne_nil (@splitAt_ne_nil '\n' (gap ++ rest))
    rw [← ih white.2 whole.2, List.cons_append, Document.tellingLines, Document.tellingLines,
      splitAt_cons_of_ne (Ne.symm whole.1) split, split, List.map_cons, List.map_cons,
      trim_cons white.1]

/-- White space at the end reaches no further than the last line. -/
theorem tellingLines_trail (white : White gap) (whole : '\n' ∉ gap) (front : List Char) :
    tellingLines (front ++ gap) = tellingLines front := by
  have last {line : List Char} (single : '\n' ∉ line) :
      tellingLines (line ++ gap) = tellingLines line := by
    have longer : '\n' ∉ line ++ gap := List.not_mem_append single whole
    rw [tellingLines_line longer, tellingLines_line single, lineOf, lineOf, trim_append_white white]
  cases cut : cutLast? '\n' front with
  | none => exact last (cutLast?_eq_none_iff.mp cut)
  | some parts =>
    obtain ⟨earlier, line⟩ := parts
    obtain ⟨rfl, single⟩ := cutLast?_eq_some_iff.mp cut
    rw [List.append_assoc, List.cons_append, tellingLines_feed, tellingLines_feed, last single]

/-! ## What edits keep -/

theorem Edit.tellingLines {t u : List Char} (edit : Edit t u) :
    tellingLines t = tellingLines u := by
  cases edit with
  | noise before line after start whole idle =>
    rw [start.tellingLines, start.tellingLines, tellingLines_feed, tellingLines_idle whole idle]
    rfl
  | lastNoise text line whole idle =>
    rw [tellingLines_feed, tellingLines_idle whole idle, List.append_nil]
  | margin before gap after start white whole =>
    rw [start.tellingLines, start.tellingLines, tellingLines_margin white whole]
  | trail before gap after ends white whole =>
    rw [← List.append_assoc, ends.tellingLines, ends.tellingLines, tellingLines_trail white whole]
  | carriage before after =>
    have ends : AtEnd ('\n' :: after) := .inr ⟨after, rfl⟩
    have split : before ++ '\r' :: '\n' :: after = (before ++ ['\r']) ++ '\n' :: after := by simp
    rw [split, ends.tellingLines, ends.tellingLines, tellingLines_trail (by decide) (by decide)]
  | terminator text =>
    rw [tellingLines_feed, tellingLines_nil, List.append_nil]

theorem tellingLines_of_edits {t u : List Char} (edits : Relation.EqvGen Edit t u) :
    tellingLines t = tellingLines u := by
  induction edits with
  | rel t u edit => exact edit.tellingLines
  | refl t => rfl
  | symm t u _ ih => exact ih.symm
  | trans t u v _ _ first second => exact first.trans second

/-! ## What edits can do -/

/-- The telling lines of a text and nothing else. -/
def bare (text : List Char) : List Char := (tellingLines text).flatMap (· ++ ['\n'])

/-- A line that declares nothing is taken out, another one is trimmed. -/
theorem edits_line (start : AtStart before) (whole : '\n' ∉ line) (rest : List Char) :
    Relation.EqvGen Edit (before ++ (line ++ '\n' :: rest)) (before ++ (bare line ++ rest)) := by
  rw [bare, tellingLines_line whole]
  split
  · next idle => exact .symm _ _ (.rel _ _ (.noise before line rest start whole idle))
  · next telling =>
    obtain ⟨front, back, front_white, back_white, split⟩ := exists_margins line
    have front_whole : '\n' ∉ front := by
      intro inside
      rw [split] at whole
      exact whole (List.mem_append_left _ inside)
    have back_whole : '\n' ∉ back := by
      intro inside
      rw [split] at whole
      exact whole (List.mem_append_right _ (List.mem_append_right _ inside))
    have first := Edit.margin before front (trim line ++ (back ++ '\n' :: rest)) start front_white
      front_whole
    have second := Edit.trail (before ++ trim line) back ('\n' :: rest) (.inr ⟨rest, rfl⟩) back_white
      back_whole
    rw [List.append_assoc, List.append_assoc] at second
    have written : line ++ '\n' :: rest = front ++ (trim line ++ (back ++ '\n' :: rest)) := by
      conv_lhs => rw [split]
      simp only [List.append_assoc]
    have alone : [trim line].flatMap (· ++ ['\n']) ++ rest = trim line ++ '\n' :: rest := by simp
    rw [written, alone]
    exact .symm _ _ (.trans _ _ _ (.rel _ _ second) (.rel _ _ first))

theorem AtStart.bare (start : AtStart before) (text : List Char) :
    AtStart (before ++ bare text) := by
  rw [Document.bare]
  induction Document.tellingLines text using List.reverseRecOn with
  | nil => rwa [List.flatMap_nil, List.append_nil]
  | append_singleton lines line _ =>
    refine .inr ⟨before ++ (lines.flatMap (· ++ ['\n']) ++ line), ?_⟩
    simp

/-- Line after line, each one behind what is bare already. -/
theorem edits_bare {before : List Char} (start : AtStart before) (text : List Char) :
    Relation.EqvGen Edit (before ++ text) (before ++ bare text) := by
  by_cases feed : '\n' ∈ text
  · obtain ⟨line, rest, split, whole⟩ := List.eq_append_cons_of_mem feed
    have shorter : rest.length < text.length := by
      rw [split, List.length_append, List.length_cons]
      omega
    have first := edits_line start whole rest
    have behind := edits_bare (start.bare line) rest
    have pieces : bare text = bare line ++ bare rest := by
      rw [split, bare, tellingLines_feed, List.flatMap_append]
      rfl
    rw [List.append_assoc, List.append_assoc, ← pieces] at behind
    rw [split] at behind ⊢
    exact .trans _ _ _ first behind
  · have ended := Edit.terminator (before ++ text)
    have last := edits_line start feed []
    rw [List.append_assoc] at ended
    rw [List.append_nil] at last
    exact .trans _ _ _ (.rel _ _ ended) last
termination_by text.length

theorem edits_iff {t u : List Char} :
    Relation.EqvGen Edit t u ↔ tellingLines t = tellingLines u := by
  constructor
  · exact tellingLines_of_edits
  · intro same
    have start : AtStart [] := .inl rfl
    have left := edits_bare start t
    have right := edits_bare start u
    rw [bare, same] at left
    exact .trans _ _ _ left (.symm _ _ right)

/-! ## What the model depends on -/

theorem declarations_eq_telling (text : String) :
    declarations text =
      (tellingLines text.toList).filterMap fun line => (Line.classify line).declaration? := by
  rw [← declarations_splitAt, tellingLines, List.filterMap_filter, List.filterMap_map]
  refine List.filterMap_congr fun line _ => ?_
  rw [Function.comp_apply, lineOf]
  split
  · rfl
  · next idle =>
    rw [decide_eq_true_eq, not_not] at idle
    rw [idle]
    rfl

/-- Texts can be edited into each other, by any number of edits in both directions, exactly if their
telling lines are the same; they declare the same in the same order then and give the same model. -/
theorem noise_indifferent (t u : String) :
    (Relation.EqvGen Edit t.toList u.toList ↔ tellingLines t.toList = tellingLines u.toList) ∧
      (Relation.EqvGen Edit t.toList u.toList →
        declarations t = declarations u ∧ (parse t).value = (parse u).value) := by
  refine ⟨edits_iff, fun edits => ?_⟩
  have same : declarations t = declarations u := by
    rw [declarations_eq_telling, declarations_eq_telling, tellingLines_of_edits edits]
  refine ⟨same, ?_⟩
  rw [Model.parse_value_eq_build, Model.parse_value_eq_build, same]

/-- A margin of an ideographic space, a carriage return, an unclosed list, which declares nothing
with the blanks behind it, and a last line feed. -/
theorem noise_indifferent_unclosed :
    let t := "Entity: A [id*]\nEntity: B []"
    let u := "\u3000Entity: A [id*]\x0d\nEntity: C [x  \nEntity: B []\n"
    Relation.EqvGen Edit t.toList u.toList ∧ (parse t).value = (parse u).value := by
  intro t u
  let first := "Entity: A [id*]".toList
  let unclosed := "Entity: C [x  ".toList
  let last := "Entity: B []".toList
  have start : AtStart ('\u3000' :: first ++ ['\x0d', '\n']) :=
    .inr ⟨'\u3000' :: first ++ ['\x0d'], by simp⟩
  have margin := Edit.margin [] ['\u3000'] (first ++ '\n' :: last) (.inl rfl) (by decide) (by decide)
  have carriage := Edit.carriage ('\u3000' :: first) last
  have noise := Edit.noise ('\u3000' :: first ++ ['\x0d', '\n']) unclosed last start (by decide)
    (by decide)
  have terminator := Edit.terminator
    ('\u3000' :: first ++ ['\x0d', '\n'] ++ (unclosed ++ '\n' :: last))
  have begun : t.toList = first ++ '\n' :: last := by decide
  have ended : u.toList =
      '\u3000' :: first ++ ['\x0d', '\n'] ++ (unclosed ++ '\n' :: last) ++ ['\n'] := by
    decide
  have edits : Relation.EqvGen Edit t.toList u.toList := by
    rw [begun, ended]
    exact .trans _ _ _ (.rel _ _ margin) (.trans _ _ _ (.rel _ _ carriage)
      (.trans _ _ _ (.rel _ _ noise) (.rel _ _ terminator)))
  exact ⟨edits, ((noise_indifferent t u).2 edits).2⟩

end EntityDiagram.Document
