import EntityDiagram.Proofs.Source.Noise

/-! # The log of a reading

A line that declares nothing leaves no trace in the model, and an entity that is replaced leaves
none either; only the log tells of them. It has something to say of every line, in the order of the
lines: that an entity or a relationship is registered, or that the line is skipped, by its number.
An entity under a known name is told once more, by number. What is known at a line is what the
model holds there, which the lines before it alone decide. So the log can be told from the
classified lines, and the counts in its last record from the records before it.
-/

namespace EntityDiagram.Document

open Text

/-! ## Lines by number -/

/-- Line `number` of the text, where the first line has the number 1: its number is one more than
there are line feeds in front of it. Nothing behind a last line feed is no line. -/
def LineAt (text : List Char) (number : Nat) (line : List Char) : Prop :=
  ∃ before after, text = before ++ (line ++ after) ∧ AtStart before ∧ AtEnd after ∧
    '\n' ∉ line ∧ line ++ after ≠ [] ∧ number = before.count '\n' + 1

theorem LineAt.getElem?_lines {text line : List Char} {number : Nat}
    (placed : LineAt text number line) : ∃ i, number = i + 1 ∧ (lines text)[i]? = some line := by
  obtain ⟨before, after, rfl, start, ends, whole, nonempty, rfl⟩ := placed
  refine ⟨_, rfl, ?_⟩
  have first : (lines (line ++ after))[0]? = some line := by
    rcases ends with rfl | ⟨later, rfl⟩
    · rw [List.append_nil] at nonempty ⊢
      rw [lines_of_not_mem whole nonempty]
      rfl
    · rw [lines_cons whole]
      rfl
  rcases start with rfl | ⟨earlier, rfl⟩
  · exact first
  · have index : (splitAt '\n' earlier).length = (earlier ++ ['\n']).count '\n' := by
      simp [length_splitAt]
    rw [List.append_assoc, List.singleton_append, lines_append,
      List.getElem?_append_right (by omega), index, Nat.sub_self]
    exact first

theorem lineAt_of_getElem? {text line : List Char} {i : Nat}
    (found : (lines text)[i]? = some line) : LineAt text (i + 1) line := by
  -- The first line is cut off with its line feed; later lines are lines of the rest.
  by_cases feed : '\n' ∈ text
  · obtain ⟨first, rest, split, whole⟩ := List.eq_append_cons_of_mem feed
    have shorter : rest.length < text.length := by
      rw [split, List.length_append, List.length_cons]
      omega
    rw [split, lines_cons whole] at found
    cases i with
    | zero =>
      obtain rfl : first = line := Option.some.inj found
      exact ⟨[], '\n' :: rest, split, .inl rfl, .inr ⟨rest, rfl⟩, whole, by simp, rfl⟩
    | succ j =>
      obtain ⟨before, after, rfl, start, ends, single, nonempty, number⟩ := lineAt_of_getElem? found
      refine ⟨first ++ '\n' :: before, after, by simp [split], ?_, ends, single, nonempty, ?_⟩
      · rcases start with rfl | ⟨earlier, rfl⟩
        · exact .inr ⟨first, rfl⟩
        · exact .inr ⟨first ++ '\n' :: earlier, by simp⟩
      · simp only [List.count_append, List.count_eq_zero.mpr whole, List.count_cons_self]
        omega
  · cases text with
    | nil => cases found
    | cons c cs =>
      rw [lines_of_not_mem feed (List.cons_ne_nil c cs), List.getElem?_singleton] at found
      split at found
      · next here =>
        obtain rfl := Option.some.inj found
        exact ⟨[], [], by simp, .inl rfl, .inl rfl, feed, by simp, by rw [here]; rfl⟩
      · cases found
termination_by text.length

theorem lineAt_iff {text line : List Char} {number : Nat} :
    LineAt text number line ↔ ∃ i, number = i + 1 ∧ (lines text)[i]? = some line := by
  constructor
  · exact LineAt.getElem?_lines
  · rintro ⟨i, rfl, found⟩
    exact lineAt_of_getElem? found

/-! ## What there is to say -/

/-- What the lines of a text declare, or that they declare nothing. -/
def classified (text : String) : List Line := (lines text.toList).map lineOf

/-- The names under which lines declare entities. -/
def entityNames (ls : List Line) : List String :=
  (Declaration.entities (ls.filterMap Line.declaration?)).map Entity.name

/-- The records for a line behind the lines `earlier`. -/
def report (earlier : List Line) : Line → List Record
  | .entity e =>
    if e.name ∈ entityNames earlier then
      [entityRegistered e, entityRedeclared (earlier.length + 1)]
    else [entityRegistered e]
  | .relationship r => [relationshipRegistered r]
  | .unmatched => [lineSkipped (earlier.length + 1)]

/-- The records for all lines, each in view of the lines before it. -/
def reports (ls : List Line) : List Record :=
  (ls.mapIdx fun i line => report (ls.take i) line).flatten

/-- The records of a log that have the message. -/
def told (message : String) (log : List Record) : List Record :=
  log.filter (·.message = message)

/-- How the log of a reading accounts for the lines of the text and for the model. The lines are told
in their order, each of them once, with the number they have in the text where a number is told; the
counts that are told last are those of the model and of the records before. -/
structure Accounts (text : String) (read : Logged Model) : Prop where
  inOrder : read.log = reports (classified text) ++ [documentRead read.value]
  registered : told "Registering entity" read.log =
    (Declaration.entities (declarations text)).map entityRegistered
  related : told "Registering relationship" read.log =
    (Declaration.relationships (declarations text)).map relationshipRegistered
  once : (lines text.toList).length = (told "Registering entity" read.log).length +
    (told "Registering relationship" read.log).length +
    (told "Skipping unmatched line" read.log).length
  skipped : ∀ number, lineSkipped number ∈ read.log ↔
    ∃ line, LineAt text.toList number line ∧ lineOf line = .unmatched
  redeclared : ∀ number, entityRedeclared number ∈ read.log ↔
    ∃ line e, LineAt text.toList number line ∧ lineOf line = .entity e ∧
      ∃ earlier < number, ∃ other f, LineAt text.toList earlier other ∧ lineOf other = .entity f ∧
        f.name = e.name
  summary : told "Structured text parsed" read.log = [documentRead read.value]
  entities : read.value.entities.length +
      (told "Entity redeclared, previous definition replaced" read.log).length =
    (told "Registering entity" read.log).length
  relationships : read.value.relationships.length =
    (told "Registering relationship" read.log).length
  counts : (documentRead read.value).fields = [
    ("entities", toString ((told "Registering entity" read.log).length -
      (told "Entity redeclared, previous definition replaced" read.log).length)),
    ("relationships", toString (told "Registering relationship" read.log).length)]

/-! ## Line after line -/

section Lines

variable {ls : List Line} {line : Line} {number : Nat}

theorem reports_concat (ls : List Line) (line : Line) :
    reports (ls ++ [line]) = reports ls ++ report ls line := by
  have before : (ls.mapIdx fun i other => report ((ls ++ [line]).take i) other) =
      ls.mapIdx fun i other => report (ls.take i) other := by
    refine List.mapIdx_eq_mapIdx_iff.mpr fun i bound => ?_
    rw [List.take_append_of_le_length (Nat.le_of_lt bound)]
  rw [reports, List.mapIdx_concat, before, List.take_left, List.flatten_append, List.flatten_singleton]
  rfl

theorem mem_reports_iff {record : Record} :
    record ∈ reports ls ↔ ∃ i line, ls[i]? = some line ∧ record ∈ report (ls.take i) line := by
  rw [reports, List.mem_flatten]
  constructor
  · rintro ⟨records, member, inside⟩
    obtain ⟨i, bound, rfl⟩ := List.mem_mapIdx.mp member
    exact ⟨i, ls[i], List.getElem?_eq_getElem bound, inside⟩
  · rintro ⟨i, line, found, inside⟩
    obtain ⟨bound, rfl⟩ := List.getElem?_eq_some_iff.mp found
    exact ⟨_, List.mem_mapIdx.mpr ⟨i, bound, rfl⟩, inside⟩

theorem declarations_concat (ls : List Line) (line : Line) :
    (ls ++ [line]).filterMap Line.declaration? =
      ls.filterMap Line.declaration? ++ line.declaration?.toList := by
  rw [List.filterMap_append]
  cases line <;> rfl

theorem mem_names_build {name : String} :
    name ∈ (Model.build (ls.filterMap Line.declaration?)).entities.map Entity.name ↔
      name ∈ entityNames ls := by
  rw [Model.names_build, List.mem_eraseDups, entityNames]

/-- The model that holds the earlier lines tells what is redeclared. -/
theorem log_register (earlier : List Line) (line : Line) :
    (register (Model.build (earlier.filterMap Line.declaration?)) (earlier.length + 1) line).log =
      report earlier line := by
  cases line with
  | entity e =>
    have replaced := Model.insert_fst (Model.build (earlier.filterMap Line.declaration?)) e
    rw [register, report]
    cases inserted : (Model.build (earlier.filterMap Line.declaration?)).insert e with
    | mk old next =>
      rw [inserted] at replaced
      cases old with
      | none =>
        have fresh : e.name ∉ entityNames earlier := Model.entity?_build_eq_none_iff.mp replaced.symm
        rw [if_neg fresh]
      | some f =>
        have known : e.name ∈ entityNames earlier := by
          by_contra fresh
          rw [Model.entity?_build_eq_none_iff.mpr fresh] at replaced
          cases replaced
        rw [if_pos known]
  | relationship r => rfl
  | unmatched => rfl

theorem log_registerAll_concat (m : Model) (number : Nat) (before : List (List Char))
    (line : List Char) :
    (registerAll m number (before ++ [line])).log = (registerAll m number before).log ++
      (register (registerAll m number before).value (number + before.length) (lineOf line)).log := by
  induction before generalizing m number with
  | nil => simp [registerAll, lineOf]
  | cons first rest ih =>
    have next : number + (rest.length + 1) = number + 1 + rest.length := by omega
    rw [List.cons_append, registerAll, registerAll, Logged.log_bind, Logged.log_bind,
      Logged.value_bind, ih, List.append_assoc, List.length_cons, next]

theorem log_registerAll (lines : List (List Char)) :
    (registerAll .empty 1 lines).log = reports (lines.map lineOf) := by
  induction lines using List.reverseRecOn with
  | nil => rfl
  | append_singleton before line ih =>
    -- The last line meets the model of the lines before it, so it is told in view of them.
    have held : (registerAll .empty 1 before).value =
        Model.build ((before.map lineOf).filterMap Line.declaration?) := by
      rw [registerAll_value, Model.foldl_declare, Model.build]
    have number : 1 + before.length = (before.map lineOf).length + 1 := by
      rw [List.length_map, Nat.add_comm]
    rw [log_registerAll_concat, ih, held, number, log_register, List.map_append, List.map_singleton,
      reports_concat]

theorem log_parse (text : String) :
    (parse text).log = reports (classified text) ++ [documentRead (parse text).value] := by
  rw [classified, ← log_registerAll]
  rfl

end Lines

/-! ## Kinds of records -/

section Kinds

variable {earlier ls : List Line} {line : Line} {number : Nat}

theorem told_append (message : String) (log rest : List Record) :
    told message (log ++ rest) = told message log ++ told message rest :=
  List.filter_append log rest

/-- What one line adds to the records of each kind. A redeclared name adds no second registration. -/
theorem told_report (earlier : List Line) (line : Line) :
    told "Registering entity" (report earlier line) =
        (Declaration.entities line.declaration?.toList).map entityRegistered ∧
      told "Registering relationship" (report earlier line) =
        (Declaration.relationships line.declaration?.toList).map relationshipRegistered ∧
      told "Skipping unmatched line" (report earlier line) =
        (if line = .unmatched then [lineSkipped (earlier.length + 1)] else []) ∧
      told "Structured text parsed" (report earlier line) = [] := by
  cases line with
  | entity e =>
    rw [report]
    split <;> exact ⟨rfl, rfl, rfl, rfl⟩
  | relationship r => exact ⟨rfl, rfl, rfl, rfl⟩
  | unmatched => exact ⟨rfl, rfl, rfl, rfl⟩

/-- The records of one kind in a whole log, from what each line adds to them. -/
theorem told_reports {message : String} (view : List Line → List Record) (nothing : view [] = [])
    (next : ∀ ls line, view (ls ++ [line]) = view ls ++ told message (report ls line))
    (ls : List Line) : told message (reports ls) = view ls := by
  induction ls using List.reverseRecOn with
  | nil => exact nothing.symm
  | append_singleton ls line ih => rw [reports_concat, told_append, ih, next]

theorem told_registered (ls : List Line) :
    told "Registering entity" (reports ls) =
      (Declaration.entities (ls.filterMap Line.declaration?)).map entityRegistered := by
  refine told_reports
    (fun ls => (Declaration.entities (ls.filterMap Line.declaration?)).map entityRegistered)
    rfl (fun ls line => ?_) ls
  rw [declarations_concat, Declaration.entities_append, List.map_append, (told_report ls line).1]

theorem told_related (ls : List Line) :
    told "Registering relationship" (reports ls) =
      (Declaration.relationships (ls.filterMap Line.declaration?)).map relationshipRegistered := by
  refine told_reports
    (fun ls => (Declaration.relationships (ls.filterMap Line.declaration?)).map relationshipRegistered)
    rfl (fun ls line => ?_) ls
  rw [declarations_concat, Declaration.relationships_append, List.map_append,
    (told_report ls line).2.1]

theorem told_summary (ls : List Line) : told "Structured text parsed" (reports ls) = [] :=
  told_reports (fun _ => []) rfl (fun ls line => (told_report ls line).2.2.2.symm) ls

/-- Each line is registered or skipped, and only once. -/
theorem length_told (ls : List Line) :
    ls.length = (told "Registering entity" (reports ls)).length +
      (told "Registering relationship" (reports ls)).length +
      (told "Skipping unmatched line" (reports ls)).length := by
  induction ls using List.reverseRecOn with
  | nil => rfl
  | append_singleton ls line ih =>
    obtain ⟨registered, related, skipped, -⟩ := told_report ls line
    simp only [reports_concat, told_append, List.length_append, registered, related, skipped]
    cases line with
    | entity e =>
      change ls.length + 1 = _ + 1 + (_ + 0) + (_ + 0)
      omega
    | relationship r =>
      change ls.length + 1 = _ + 0 + (_ + 1) + (_ + 0)
      omega
    | unmatched =>
      change ls.length + 1 = _ + 0 + (_ + 0) + (_ + 1)
      omega

theorem length_entities_insert (m : Model) (e : Entity) :
    (m.insert e).2.entities.length =
      if e.name ∈ m.entities.map Entity.name then m.entities.length
      else m.entities.length + 1 := by
  have names := congrArg List.length (m.names_insert e)
  rw [List.length_map] at names
  rw [names]
  split <;> simp

/-- Every entity that is registered has a place of its own, unless it is redeclared. -/
theorem length_entities_told (ls : List Line) :
    (Model.build (ls.filterMap Line.declaration?)).entities.length +
        (told "Entity redeclared, previous definition replaced" (reports ls)).length =
      (told "Registering entity" (reports ls)).length := by
  induction ls using List.reverseRecOn with
  | nil => rfl
  | append_singleton ls line ih =>
    simp only [reports_concat, told_append, List.length_append, declarations_concat]
    cases line with
    | entity e =>
      have grown := length_entities_insert (Model.build (ls.filterMap Line.declaration?)) e
      simp only [mem_names_build] at grown
      change (Model.build (_ ++ [.entity e])).entities.length + _ = _
      rw [Model.build_append, Model.add, report]
      -- A known name adds a record on either side, a new one an entity and its registration.
      by_cases known : e.name ∈ entityNames ls
      · rw [if_pos known] at grown ⊢
        change _ + (_ + 1) = _ + 1
        omega
      · rw [if_neg known] at grown ⊢
        change _ + (_ + 0) = _ + 1
        omega
    | relationship r =>
      change (Model.build (_ ++ [.relationship r])).entities.length + _ = _
      rw [Model.build_append]
      exact ih
    | unmatched =>
      change (Model.build (_ ++ [])).entities.length + _ = _
      rw [List.append_nil]
      exact ih

/-- Two numbers with the same decimal text are the same. -/
theorem toString_injective {m n : Nat} (same : toString m = toString n) : m = n := by
  rw [Nat.toString_eq_ofList_toDigits, Nat.toString_eq_ofList_toDigits] at same
  calc
    m = Nat.ofDigitChars 10 (Nat.toDigits 10 m) 0 := Nat.ofDigitChars_ten_toDigits.symm
    _ = Nat.ofDigitChars 10 (Nat.toDigits 10 n) 0 := by rw [String.ofList_injective same]
    _ = n := Nat.ofDigitChars_ten_toDigits

theorem lineSkipped_injective {m n : Nat} (same : lineSkipped m = lineSkipped n) : m = n := by
  apply toString_injective
  simpa [lineSkipped] using congrArg Record.fields same

theorem entityRedeclared_injective {m n : Nat} (same : entityRedeclared m = entityRedeclared n) :
    m = n := by
  apply toString_injective
  simpa [entityRedeclared] using congrArg Record.fields same

theorem lineSkipped_mem_report_iff :
    lineSkipped number ∈ report earlier line ↔
      line = .unmatched ∧ number = earlier.length + 1 := by
  cases line with
  | entity e =>
    rw [report]
    split <;> simp [lineSkipped, entityRegistered, entityRedeclared]
  | relationship r => simp [report, lineSkipped, relationshipRegistered]
  | unmatched =>
    rw [report, List.mem_singleton]
    exact ⟨fun same => ⟨rfl, lineSkipped_injective same⟩, fun same => congrArg _ same.2⟩

theorem entityRedeclared_mem_report_iff :
    entityRedeclared number ∈ report earlier line ↔
      ∃ e, line = .entity e ∧ e.name ∈ entityNames earlier ∧ number = earlier.length + 1 := by
  cases line with
  | entity e =>
    rw [report]
    by_cases known : e.name ∈ entityNames earlier
    · rw [if_pos known]
      constructor
      · intro member
        rcases List.mem_cons.mp member with other | member
        · simp [entityRedeclared, entityRegistered] at other
        · exact ⟨e, rfl, known, entityRedeclared_injective (List.mem_singleton.mp member)⟩
      · rintro ⟨-, -, -, rfl⟩
        exact List.mem_cons_of_mem _ (List.mem_singleton_self _)
    · rw [if_neg known]
      constructor
      · intro member
        simp [entityRedeclared, entityRegistered] at member
      · rintro ⟨f, same, declared, -⟩
        cases same
        exact absurd declared known
  | relationship r => simp [report, entityRedeclared, relationshipRegistered]
  | unmatched => simp [report, entityRedeclared, lineSkipped]

end Kinds

/-! ## The whole log -/

section Texts

variable {text : String} {number : Nat}

theorem mem_entityNames_iff {ls : List Line} {name : String} :
    name ∈ entityNames ls ↔ ∃ e, Line.entity e ∈ ls ∧ e.name = name := by
  have reads (line : Line) (e : Entity) :
      line.declaration?.bind Declaration.entity? = some e ↔ line = .entity e := by
    cases line <;> simp [Line.declaration?, Declaration.entity?]
  simp only [entityNames, Declaration.entities, List.filterMap_filterMap, List.mem_map,
    List.mem_filterMap, reads, exists_eq_right]

theorem getElem?_classified_iff {i : Nat} {declared : Line} :
    (classified text)[i]? = some declared ↔
      ∃ line, LineAt text.toList (i + 1) line ∧ lineOf line = declared := by
  rw [classified, List.getElem?_map, Option.map_eq_some_iff]
  simp only [lineAt_iff, Nat.add_right_cancel_iff, exists_eq_left']

/-- A record that names a line does so by its number in the text. -/
theorem mem_reports_classified_iff {record : Record} :
    record ∈ reports (classified text) ↔
      ∃ i line, LineAt text.toList (i + 1) line ∧
        record ∈ report ((classified text).take i) (lineOf line) := by
  rw [mem_reports_iff]
  constructor
  · rintro ⟨i, declared, found, inside⟩
    obtain ⟨line, placed, rfl⟩ := getElem?_classified_iff.mp found
    exact ⟨i, line, placed, inside⟩
  · rintro ⟨i, line, placed, inside⟩
    exact ⟨i, lineOf line, getElem?_classified_iff.mpr ⟨line, placed, rfl⟩, inside⟩

theorem length_take_classified {i : Nat} {line : List Char}
    (placed : LineAt text.toList (i + 1) line) : ((classified text).take i).length = i := by
  have found := getElem?_classified_iff.mpr ⟨line, placed, rfl⟩
  obtain ⟨bound, -⟩ := List.getElem?_eq_some_iff.mp found
  exact List.length_take_of_le (Nat.le_of_lt bound)

theorem mem_entityNames_take_iff {name : String} {i : Nat} :
    name ∈ entityNames ((classified text).take i) ↔
      ∃ earlier < i + 1, ∃ other f, LineAt text.toList earlier other ∧ lineOf other = .entity f ∧
        f.name = name := by
  rw [mem_entityNames_iff]
  constructor
  · rintro ⟨f, member, rfl⟩
    obtain ⟨j, bound, found⟩ := List.mem_take_iff_getElem.mp member
    obtain ⟨other, placed, read⟩ :=
      getElem?_classified_iff.mp (List.getElem?_eq_some_iff.mpr ⟨by omega, found⟩)
    exact ⟨j + 1, by omega, other, f, placed, read, rfl⟩
  · rintro ⟨earlier, before, other, f, placed, read, rfl⟩
    obtain ⟨j, rfl, -⟩ := lineAt_iff.mp placed
    have found := getElem?_classified_iff.mpr ⟨other, placed, read⟩
    refine ⟨f, List.mem_iff_getElem?.mpr ⟨j, ?_⟩, rfl⟩
    rwa [List.getElem?_take, if_pos (by omega)]

theorem lineSkipped_mem_reports_iff :
    lineSkipped number ∈ reports (classified text) ↔
      ∃ line, LineAt text.toList number line ∧ lineOf line = .unmatched := by
  simp only [mem_reports_classified_iff, lineSkipped_mem_report_iff]
  constructor
  · rintro ⟨i, line, placed, unmatched, rfl⟩
    rw [length_take_classified placed]
    exact ⟨line, placed, unmatched⟩
  · rintro ⟨line, placed, unmatched⟩
    obtain ⟨i, rfl, -⟩ := lineAt_iff.mp placed
    exact ⟨i, line, placed, unmatched, by rw [length_take_classified placed]⟩

theorem entityRedeclared_mem_reports_iff :
    entityRedeclared number ∈ reports (classified text) ↔
      ∃ line e, LineAt text.toList number line ∧ lineOf line = .entity e ∧
        ∃ earlier < number, ∃ other f, LineAt text.toList earlier other ∧
          lineOf other = .entity f ∧ f.name = e.name := by
  simp only [mem_reports_classified_iff, entityRedeclared_mem_report_iff, mem_entityNames_take_iff]
  constructor
  · rintro ⟨i, line, placed, e, read, known, rfl⟩
    rw [length_take_classified placed]
    exact ⟨line, e, placed, read, known⟩
  · rintro ⟨line, e, placed, read, known⟩
    obtain ⟨i, rfl, -⟩ := lineAt_iff.mp placed
    exact ⟨i, line, placed, e, read, known, by rw [length_take_classified placed]⟩

theorem told_log {message : String} (other : message ≠ "Structured text parsed") (text : String) :
    told message (parse text).log = told message (reports (classified text)) := by
  have summary : told message [documentRead (parse text).value] = [] := by
    simp [told, documentRead, Ne.symm other]
  rw [log_parse, told_append, summary, List.append_nil]

theorem mem_log_iff {record : Record} (other : record.message ≠ "Structured text parsed") :
    record ∈ (parse text).log ↔ record ∈ reports (classified text) := by
  rw [log_parse, List.mem_append, List.mem_singleton]
  refine or_iff_left fun same => other ?_
  rw [same, documentRead]

/-- The log accounts for every line of the text once and in order: it tells what each line declares
and whether a line before it has declared the name, gives the number of each line that it skips or
that redeclares a name, and ends with the counts of the model, which are those of its records. -/
theorem parse_accounts (text : String) : Accounts text (parse text) := by
  have declared : (classified text).filterMap Line.declaration? = declarations text := by
    rw [classified, List.filterMap_map]
    rfl
  have value := Model.parse_value_eq_build text
  have registered : told "Registering entity" (parse text).log = _ := told_log (by decide) text
  have related : told "Registering relationship" (parse text).log = _ := told_log (by decide) text
  have skipped : told "Skipping unmatched line" (parse text).log = _ := told_log (by decide) text
  have redeclared : told "Entity redeclared, previous definition replaced" (parse text).log = _ :=
    told_log (by decide) text
  have entities := length_entities_told (classified text)
  rw [declared, ← value, ← registered, ← redeclared] at entities
  have relationships : (parse text).value.relationships.length =
      (told "Registering relationship" (parse text).log).length := by
    rw [related, told_related, declared, List.length_map, value, Model.relationships_build]
  constructor
  · exact log_parse text
  · rw [registered, told_registered, declared]
  · rw [related, told_related, declared]
  · have length := length_told (classified text)
    rwa [classified, List.length_map, ← classified, ← registered, ← related, ← skipped] at length
  · intro number
    rw [mem_log_iff (by simp [lineSkipped]), lineSkipped_mem_reports_iff]
  · intro number
    rw [mem_log_iff (by simp [entityRedeclared]), entityRedeclared_mem_reports_iff]
  · rw [log_parse, told_append, told_summary]
    rfl
  · exact entities
  · exact relationships
  · rw [documentRead, ← relationships, ← entities, Nat.add_sub_cancel]

/-- A name that is declared twice, a list between that no bracket closes, and an empty line. -/
example : (parse "Entity: A []\nEntity: B [x\nEntity: A [id*]\n\nRelationship: A -- r --> B").log =
    [entityRegistered { name := "A" }, lineSkipped 2,
      entityRegistered { name := "A", attributes := [{ name := "id", primary := true }] },
      entityRedeclared 3, lineSkipped 4,
      relationshipRegistered { source := "A", target := "B", relation := "r" },
      documentRead (parse "Entity: A [id*]\nRelationship: A -- r --> B").value] := by
  decide +kernel

end Texts

end EntityDiagram.Document
