import EntityDiagram.Files.Path
import EntityDiagram.Proofs.Text.Cut
import Mathlib.Data.List.Basic

/-! # File names in the text of a path

The file name of a path is found on its segments. In the text it is what follows the last slash,
except that slashes, and single dots after slashes, may stand behind it. What is said here of names,
extensions and their replacement is said of the text.
-/

namespace EntityDiagram

namespace Text

variable {sep : Char}

/-- The pieces with a separator between them are the text. -/
theorem intercalate_splitAt (cs : List Char) : List.intercalate [sep] (splitAt sep cs) = cs := by
  induction cs with
  | nil => rfl
  | cons c rest ih =>
    obtain ⟨piece, others, split⟩ := List.exists_cons_of_ne_nil (@splitAt_ne_nil sep rest)
    by_cases here : c = sep
    · rw [splitAt, if_pos here, List.intercalate_cons_of_ne_nil (splitAt_ne_nil rest), ih, here]
      rfl
    · rw [splitAt_cons_of_ne here split]
      rw [split] at ih
      cases others with
      | nil => exact congrArg (c :: ·) ih
      | cons second later => exact congrArg (c :: ·) ih

theorem splitAt_intercalate {pieces : List (List Char)} (nonempty : pieces ≠ [])
    (whole : ∀ piece ∈ pieces, sep ∉ piece) :
    splitAt sep (List.intercalate [sep] pieces) = pieces := by
  induction pieces with
  | nil => exact absurd rfl nonempty
  | cons piece rest ih =>
    rw [List.forall_mem_cons] at whole
    cases rest with
    | nil => rw [List.intercalate_singleton, splitAt_of_not_mem whole.1]
    | cons second later =>
      rw [List.intercalate_cons_cons, List.append_assoc, List.singleton_append, splitAt_append,
        splitAt_of_not_mem whole.1, ih (List.cons_ne_nil _ _) whole.2, List.singleton_append]

theorem intercalate_append {pieces : List (List Char)} (nonempty : pieces ≠ [])
    (behind : List (List Char)) :
    List.intercalate [sep] (pieces ++ behind) =
      List.intercalate [sep] pieces ++ behind.flatMap (sep :: ·) := by
  induction pieces with
  | nil => exact absurd rfl nonempty
  | cons piece rest ih =>
    cases rest with
    | nil =>
      rw [List.singleton_append]
      clear ih nonempty
      induction behind generalizing piece with
      | nil => simp
      | cons next others ih =>
        rw [List.intercalate_cons_cons, ih]
        simp
    | cons second later =>
      rw [List.cons_append, List.cons_append, List.intercalate_cons_cons, ← List.cons_append,
        ih (List.cons_ne_nil _ _), List.intercalate_cons_cons, List.append_assoc _ _ (List.flatMap _ _)]

end Text

namespace Path

open Text

/-- What follows the last slash. -/
def lastName (cs : List Char) : List Char :=
  match cutLast? '/' cs with
  | some (_, name) => name
  | none => cs

/-- What may stand behind a file name: slashes, and single dots after slashes. -/
inductive Closing : List Char → Prop
  | done : Closing []
  | slash {rest : List Char} (more : Closing rest) : Closing ('/' :: rest)
  | dot {rest : List Char} (more : Closing rest) : Closing ('/' :: '.' :: rest)

variable {p : Path} {cs folder name trail base : List Char}

/-! ## The last name -/

theorem lastName_of_not_mem (whole : '/' ∉ cs) : lastName cs = cs := by
  rw [lastName, cutLast?_eq_none_iff.mpr whole]

theorem lastName_slash (before : List Char) (whole : '/' ∉ name) :
    lastName (before ++ '/' :: name) = name := by
  rw [lastName, cutLast?_append before whole]

theorem slash_not_mem_lastName (cs : List Char) : '/' ∉ lastName cs := by
  rw [lastName]
  cases cut : cutLast? '/' cs with
  | none => exact cutLast?_eq_none_iff.mp cut
  | some parts => exact (cutLast?_eq_some_iff.mp cut).2

theorem lastName_append_of_not_mem (cs : List Char) (whole : '/' ∉ name) :
    lastName (cs ++ name) = lastName cs ++ name := by
  cases cut : cutLast? '/' cs with
  | none =>
    have absent := cutLast?_eq_none_iff.mp cut
    rw [lastName_of_not_mem absent, lastName_of_not_mem]
    exact fun inside => (List.mem_append.mp inside).elim absent whole
  | some parts =>
    obtain ⟨before, last⟩ := parts
    obtain ⟨rfl, free⟩ := cutLast?_eq_some_iff.mp cut
    rw [lastName_slash before free, List.append_assoc, List.cons_append, lastName_slash]
    exact fun inside => (List.mem_append.mp inside).elim free whole

/-- Before the last name stands nothing, or what ends in a slash. -/
theorem exists_folder (cs : List Char) :
    ∃ folder, cs = folder ++ lastName cs ∧ lastName folder = [] := by
  cases cut : cutLast? '/' cs with
  | none =>
    rw [lastName_of_not_mem (cutLast?_eq_none_iff.mp cut)]
    exact ⟨[], rfl, rfl⟩
  | some parts =>
    obtain ⟨before, last⟩ := parts
    obtain ⟨rfl, free⟩ := cutLast?_eq_some_iff.mp cut
    refine ⟨before ++ ['/'], ?_, lastName_slash before List.not_mem_nil⟩
    rw [lastName_slash before free, List.append_assoc, List.singleton_append]

/-- One name after the other in the same directory. -/
theorem exists_directories (directory : lastName folder = []) :
    ∃ directories, ∀ name, '/' ∉ name →
      splitAt '/' (folder ++ name) = directories ++ [name] := by
  cases cut : cutLast? '/' folder with
  | none =>
    rw [lastName_of_not_mem (cutLast?_eq_none_iff.mp cut)] at directory
    subst directory
    exact ⟨[], fun name whole => splitAt_of_not_mem whole⟩
  | some parts =>
    obtain ⟨before, last⟩ := parts
    obtain ⟨rfl, free⟩ := cutLast?_eq_some_iff.mp cut
    rw [lastName_slash before free] at directory
    subst directory
    refine ⟨splitAt '/' before, fun name whole => ?_⟩
    rw [List.append_assoc, List.singleton_append, splitAt_append, splitAt_of_not_mem whole]

theorem exists_splitAt_lastName (cs : List Char) :
    ∃ directories, splitAt '/' cs = directories ++ [lastName cs] := by
  obtain ⟨folder, written, directory⟩ := exists_folder cs
  obtain ⟨directories, split⟩ := exists_directories directory
  refine ⟨directories, ?_⟩
  have own := split (lastName cs) (slash_not_mem_lastName cs)
  rwa [← written] at own

/-! ## Behind the file name -/

theorem Closing.take (closing : Closing trail) (n : ℕ) : Closing (trail.take n) := by
  induction closing generalizing n with
  | done => rw [List.take_nil]; exact .done
  | slash more ih =>
    cases n with
    | zero => exact .done
    | succ n => exact .slash (ih n)
  | dot more ih =>
    match n with
    | 0 => exact .done
    | 1 => exact .slash .done
    | n + 2 => exact .dot (ih n)

theorem closing_flatMap {pieces : List (List Char)}
    (stay : ∀ piece ∈ pieces, trailing piece = true) : Closing (pieces.flatMap ('/' :: ·)) := by
  induction pieces with
  | nil => exact .done
  | cons piece rest ih =>
    rw [List.forall_mem_cons] at stay
    rcases Bool.or_eq_true_iff.mp stay.1 with empty | dot
    · rw [List.isEmpty_iff.mp empty]
      exact .slash (ih stay.2)
    · rw [eq_of_beq dot]
      exact .dot (ih stay.2)

theorem Closing.splitAt (closing : Closing trail) (cs : List Char) :
    ∃ pieces, Text.splitAt '/' (cs ++ trail) = Text.splitAt '/' cs ++ pieces ∧
      ∀ piece ∈ pieces, trailing piece = true := by
  induction closing generalizing cs with
  | done => exact ⟨[], by simp⟩
  | slash more ih =>
    obtain ⟨pieces, split, stay⟩ := ih []
    refine ⟨[] :: pieces, ?_, List.forall_mem_cons.mpr ⟨rfl, stay⟩⟩
    rw [List.nil_append] at split
    rw [splitAt_append, split]
    rfl
  | dot more ih =>
    obtain ⟨pieces, split, stay⟩ := ih ['.']
    refine ⟨['.'] :: pieces, ?_, List.forall_mem_cons.mpr ⟨rfl, stay⟩⟩
    rw [splitAt_append, ← List.singleton_append, split]
    rfl

/-- With more behind it than the file name, a text has a last name that stays where it is. -/
theorem Closing.lastName (closing : Closing trail) (more : trail ≠ []) (cs : List Char) :
    trailing (Path.lastName (cs ++ trail)) = true := by
  induction closing generalizing cs with
  | done => exact absurd rfl more
  | @slash rest closing ih =>
    by_cases last : rest = []
    · rw [last, lastName_slash cs List.not_mem_nil]
      rfl
    · have later := ih last (cs ++ ['/'])
      rwa [List.append_assoc] at later
  | @dot rest closing ih =>
    by_cases last : rest = []
    · rw [last, lastName_slash cs (by decide)]
      rfl
    · have later := ih last (cs ++ ['/', '.'])
      rwa [List.append_assoc] at later

theorem coreSegments_of_closing (written : p.text.toList = cs ++ trail) (closing : Closing trail)
    (named : trailing (lastName cs) = false) : p.coreSegments = splitAt '/' cs := by
  obtain ⟨pieces, split, stay⟩ := closing.splitAt cs
  obtain ⟨directories, last⟩ := exists_splitAt_lastName cs
  have dropped : ∀ piece ∈ pieces.reverse, trailing piece = true :=
    fun piece member => stay piece (List.mem_reverse.mp member)
  rw [coreSegments, segments, written, split, List.reverse_append,
    List.dropWhile_append_of_pos dropped, last, List.reverse_concat,
    List.dropWhile_cons_of_neg (by rw [named]; exact Bool.false_ne_true), List.reverse_cons,
    List.reverse_reverse]

theorem fileName?_of_closing (written : p.text.toList = cs ++ trail) (closing : Closing trail)
    (named : trailing (lastName cs) = false) (down : lastName cs ≠ ['.', '.']) :
    p.fileName? = some (lastName cs) := by
  obtain ⟨directories, split⟩ := exists_splitAt_lastName cs
  rw [fileName?, coreSegments_of_closing written closing named, split, List.getLast?_concat]
  exact if_neg down

/-- Behind the core stand segments that stay where they are. -/
theorem segments_split (p : Path) :
    ∃ rest, p.segments = p.coreSegments ++ rest ∧ ∀ segment ∈ rest, trailing segment = true := by
  refine ⟨(p.segments.reverse.takeWhile trailing).reverse, ?_, ?_⟩
  · rw [coreSegments, ← List.reverse_append, List.takeWhile_append_dropWhile, List.reverse_reverse]
  · intro segment member
    exact List.all_eq_true.mp List.all_takeWhile segment (List.mem_reverse.mp member)

/-- A file name is the last name of the text, up to what may stand behind it. -/
theorem exists_closing_of_fileName? (named : p.fileName? = some name) :
    ∃ cs trail, p.text.toList = cs ++ trail ∧ Closing trail ∧ lastName cs = name := by
  rw [fileName?] at named
  cases last : p.coreSegments.getLast? with
  | none => rw [last] at named; cases named
  | some found =>
    obtain rfl : found = name := by
      rw [last] at named
      simp only at named
      split at named
      · cases named
      · exact Option.some.inj named
    obtain ⟨rest, split, stay⟩ := segments_split p
    have nonempty : p.coreSegments ≠ [] := fun none => by rw [none] at last; cases last
    have whole : ∀ piece ∈ p.coreSegments, '/' ∉ piece := fun piece member =>
      not_mem_of_mem_splitAt (show piece ∈ p.segments from split ▸ List.mem_append_left rest member)
    refine ⟨List.intercalate ['/'] p.coreSegments, rest.flatMap ('/' :: ·), ?_,
      closing_flatMap stay, ?_⟩
    · rw [← intercalate_append nonempty, ← split, segments, intercalate_splitAt]
    · obtain ⟨directories, own⟩ := exists_splitAt_lastName (List.intercalate ['/'] p.coreSegments)
      rw [splitAt_intercalate nonempty whole] at own
      rw [own, List.getLast?_concat] at last
      exact Option.some.inj last

/-! ## Extensions -/

theorem trailing_of_long (long : 1 < name.length) : trailing name = false := by
  rw [trailing, Bool.or_eq_false_iff]
  refine ⟨List.isEmpty_eq_false_iff.mpr fun none => ?_, beq_eq_false_iff_ne.mpr fun dot => ?_⟩
  · rw [none] at long
    exact absurd long (by decide)
  · rw [dot] at long
    exact absurd long (by decide)

theorem dotted?_eq_some_iff {before extension : List Char} :
    dotted? name = some (before, extension) ↔
      name = before ++ '.' :: extension ∧ '.' ∉ extension ∧ before ≠ [] := by
  rw [← and_assoc, ← cutLast?_eq_some_iff, dotted?]
  cases cut : cutLast? '.' name with
  | none => simp
  | some parts =>
    obtain ⟨first, last⟩ := parts
    cases first with
    | nil =>
      simp only [reduceCtorEq, Option.some.injEq, Prod.mk.injEq, false_iff, not_and]
      rintro ⟨rfl, -⟩ other
      exact other rfl
    | cons c rest =>
      simp only [Option.some.injEq, Prod.mk.injEq]
      constructor
      · rintro ⟨rfl, rfl⟩
        exact ⟨⟨rfl, rfl⟩, List.cons_ne_nil _ _⟩
      · exact And.left

theorem dotted?_append {before extension : List Char} (plain : '.' ∉ extension)
    (nonempty : before ≠ []) : dotted? (before ++ '.' :: extension) = some (before, extension) :=
  dotted?_eq_some_iff.mpr ⟨rfl, plain, nonempty⟩

theorem slash_not_mem_dot (whole : '/' ∉ name) : '/' ∉ '.' :: name := by
  rw [List.mem_cons, not_or]
  exact ⟨by decide, whole⟩

section Suffix

variable {old : List Char} (nonempty : old ≠ []) (dotless : '.' ∉ old) (whole : '/' ∉ old)
include nonempty dotless whole

/-- A path has an extension if something stands before the dot, in the same name. -/
theorem extension?_eq_some_iff :
    p.extension? = some old ↔ ∃ base trail, p.text.toList = base ++ '.' :: old ++ trail ∧
      lastName base ≠ [] ∧ Closing trail := by
  have slashless := slash_not_mem_dot whole
  constructor
  · intro found
    rw [extension?] at found
    obtain ⟨name, named, found⟩ := Option.bind_eq_some_iff.mp found
    obtain ⟨⟨before, behind⟩, dotted, found⟩ := Option.bind_eq_some_iff.mp found
    obtain rfl := Option.some.inj found
    obtain ⟨rfl, -, before_nonempty⟩ := dotted?_eq_some_iff.mp dotted
    obtain ⟨cs, trail, written, closing, last⟩ := exists_closing_of_fileName? named
    obtain ⟨folder, split, directory⟩ := exists_folder cs
    have inside : '/' ∉ before := fun member =>
      slash_not_mem_lastName _ (last ▸ List.mem_append_left _ member)
    rw [split, last] at written
    refine ⟨folder ++ before, trail, by rw [written, ← List.append_assoc folder], ?_, closing⟩
    rwa [lastName_append_of_not_mem folder inside, directory, List.nil_append]
  · rintro ⟨base, trail, written, named, closing⟩
    have last := lastName_append_of_not_mem base slashless
    have long : 1 < (lastName base ++ '.' :: old).length := by
      have positive := List.length_pos_iff.mpr named
      simp only [List.length_append, List.length_cons]
      omega
    have down : lastName base ++ '.' :: old ≠ ['.', '.'] := by
      intro dots
      obtain ⟨first, rest, cons⟩ := List.exists_cons_of_ne_nil named
      have tail : '.' :: old = ['.'] := by
        rw [cons, List.cons_append, List.cons.injEq] at dots
        have length := congrArg List.length dots.2
        have short : rest = [] := by
          refine List.eq_nil_of_length_eq_zero ?_
          simp only [List.length_append, List.length_cons, List.length_nil] at length
          omega
        rw [short] at dots
        exact dots.2
      exact nonempty (List.cons.inj tail).2
    have found := fileName?_of_closing written closing (by rw [last]; exact trailing_of_long long)
      (by rwa [last])
    rw [extension?, found, last]
    change ((dotted? (lastName base ++ '.' :: old)).bind fun parts => Option.some parts.2) = _
    rw [dotted?_append dotless named]
    rfl

end Suffix

/-! ## Another extension -/

theorem stem_append {before extension : List Char} (plain : '.' ∉ extension)
    (nonempty : before ≠ []) : stem (before ++ '.' :: extension) = before := by
  rw [stem, dotted?_append plain nonempty]

/-- What follows the stem gives way in the text. -/
theorem setExtension_of_closing (written : p.text.toList = folder ++ name ++ trail)
    (closing : Closing trail) (directory : lastName folder = []) (whole : '/' ∉ name)
    (inside : '/' ∉ stem name) (named : trailing name = false) (down : name ≠ ['.', '.'])
    (extension : String) :
    p.setExtension extension = ⟨String.ofList (folder ++ stem name) ++ "." ++ extension⟩ := by
  have last : lastName (folder ++ name) = name := by
    rw [lastName_append_of_not_mem folder whole, directory, List.nil_append]
  obtain ⟨directories, split⟩ := exists_directories directory
  rw [setExtension, fileName?_of_closing written closing (by rwa [last]) (by rwa [last]), last,
    coreSegments_of_closing written closing (by rwa [last]), split name whole]
  simp only [List.dropLast_concat]
  rw [← split (stem name) inside, intercalate_splitAt]

theorem withExtension_of_none (bare : p.extension? = none) (extension : String) :
    p.withExtension extension = p.setExtension extension := by
  rw [withExtension, withoutExtension, bare]

/-- A name that is nothing but a suffix is a stem. -/
theorem withExtension_of_bare {suffix : List Char} (written : p.text.toList = base ++ '.' :: suffix)
    (bare : lastName base = []) (dotless : '.' ∉ suffix) (whole : '/' ∉ suffix)
    (nonempty : suffix ≠ []) (extension : String) :
    p.withExtension extension = ⟨p.text ++ "." ++ extension⟩ := by
  have slashless := slash_not_mem_dot whole
  have last : lastName (base ++ '.' :: suffix) = '.' :: suffix := by
    rw [lastName_append_of_not_mem base slashless, bare, List.nil_append]
  have long : trailing ('.' :: suffix) = false := by
    refine trailing_of_long ?_
    have positive := List.length_pos_iff.mpr nonempty
    simp only [List.length_cons]
    omega
  have down : '.' :: suffix ≠ ['.', '.'] := by
    intro dots
    rw [(List.cons.inj dots).2] at dotless
    exact dotless (List.mem_singleton_self _)
  have undotted : dotted? ('.' :: suffix) = none := by
    rw [dotted?, ← List.nil_append ('.' :: suffix), cutLast?_append [] dotless]
  have whole : stem ('.' :: suffix) = '.' :: suffix := by rw [stem, undotted]
  have written' : p.text.toList = base ++ '.' :: suffix ++ [] := by rw [written, List.append_nil]
  have extensionless : p.extension? = none := by
    rw [extension?, fileName?_of_closing written' .done (by rwa [last]) (by rwa [last]), last]
    change ((dotted? ('.' :: suffix)).bind fun parts => some parts.2) = none
    rw [undotted]
    rfl
  rw [withExtension_of_none extensionless, setExtension_of_closing written' .done bare slashless
    (by rwa [whole]) long down, whole, ← written, String.ofList_toList]

section Replaced

variable {old : List Char} (written : p.text.toList = base ++ '.' :: old ++ trail)
  (named : lastName base ≠ []) (closing : Closing trail) (nonempty : old ≠ []) (dotless : '.' ∉ old)
  (whole : '/' ∉ old)
include written named closing nonempty dotless whole

/-- What is left when the old extension goes is the stem and its dot, and some of what stood behind
if anything did. -/
theorem withoutExtension_text :
    ∃ kept left, p.withoutExtension.text.toList = base ++ '.' :: kept ++ left ∧ Closing left ∧
      '.' ∉ kept ∧ '/' ∉ kept ∧ (kept = [] ↔ trail = []) ∧ (trail = [] → left = []) := by
  have found := (extension?_eq_some_iff nonempty dotless whole).mpr
    ⟨base, trail, written, named, closing⟩
  have count : (base ++ '.' :: old ++ trail).length - old.length =
      (base ++ ['.']).length + trail.length := by
    simp only [List.length_append, List.length_cons, List.length_nil]
    omega
  have split : base ++ '.' :: old ++ trail = (base ++ ['.']) ++ (old ++ trail) := by simp
  refine ⟨old.take trail.length, trail.take (trail.length - old.length), ?_, closing.take _,
    fun member => dotless (List.mem_of_mem_take member),
    fun member => whole (List.mem_of_mem_take member), ?_, ?_⟩
  · rw [withoutExtension, found]
    simp only [String.toList_ofList]
    rw [written, count, split, List.take_length_add_append, List.take_append]
    simp
  · rw [List.take_eq_nil_iff, List.length_eq_zero_iff]
    exact or_iff_left nonempty
  · rintro rfl
    exact List.take_nil

/-- Nothing but dots are left of a name that begins with two. -/
theorem withExtension_of_dot (dot : lastName base = ['.']) (last : trail = []) (extension : String) :
    p.withExtension extension = ⟨String.ofList (base ++ ['.'])⟩ := by
  obtain ⟨kept, left, rest, -, -, -, short, ends⟩ :=
    withoutExtension_text written named closing nonempty dotless whole
  rw [short.mpr last, ends last, List.append_nil] at rest
  have up : lastName (base ++ ['.']) = ['.', '.'] := by
    rw [lastName_append_of_not_mem base (by decide), dot]
    rfl
  have none : p.withoutExtension.fileName? = none := by
    obtain ⟨directories, split⟩ := exists_splitAt_lastName (base ++ ['.'])
    rw [fileName?, coreSegments_of_closing (rest.trans (List.append_nil _).symm) .done
      (by rw [up]; rfl), split, up, List.getLast?_concat]
    rfl
  rw [withExtension, setExtension, none, ← rest, String.ofList_toList]

/-- The old extension gives way, and what stands behind it. -/
theorem withExtension_of_suffix (moves : lastName base = ['.'] → trail ≠ [])
    (extension : String) :
    p.withExtension extension = ⟨String.ofList base ++ "." ++ extension⟩ := by
  obtain ⟨kept, left, rest, behind, plain, inside, short, -⟩ :=
    withoutExtension_text written named closing nonempty dotless whole
  obtain ⟨folder, split, directory⟩ := exists_folder base
  have slashless := slash_not_mem_lastName base
  have free : '/' ∉ lastName base ++ '.' :: kept := by
    rw [List.mem_append, List.mem_cons]
    rintro (before | dot | after)
    · exact slashless before
    · exact absurd dot (by decide)
    · exact inside after
  have long : trailing (lastName base ++ '.' :: kept) = false := by
    refine trailing_of_long ?_
    have positive := List.length_pos_iff.mpr named
    simp only [List.length_append, List.length_cons]
    omega
  have down : lastName base ++ '.' :: kept ≠ ['.', '.'] := by
    intro dots
    have one : lastName base = ['.'] ∧ kept = [] := by
      have cut := cutLast?_append (lastName base) plain
      rw [dots] at cut
      obtain ⟨before, behind⟩ := Prod.mk.inj (Option.some.inj cut)
      exact ⟨before.symm, behind.symm⟩
    exact moves one.1 (short.mp one.2)
  have rest' : p.withoutExtension.text.toList =
      folder ++ (lastName base ++ '.' :: kept) ++ left := by
    rw [rest, ← List.append_assoc folder, ← split]
  have stemmed := stem_append plain named
  rw [withExtension, setExtension_of_closing rest' behind directory free (by rwa [stemmed]) long down,
    stemmed, ← split]

end Replaced

/-! ## Images -/

theorem raster_of_suffix (written : p.text.toList = base ++ ".png".toList ++ trail)
    (named : lastName base ≠ []) (closing : Closing trail) : p.raster = p :=
  if_pos ((extension?_eq_some_iff (by decide) (by decide) (by decide)).mpr
    ⟨base, trail, written, named, closing⟩)

theorem raster_of_other (other : ¬ ∃ base trail, p.text.toList = base ++ ".png".toList ++ trail ∧
    lastName base ≠ [] ∧ Closing trail) : p.raster = ⟨p.text ++ ".png"⟩ :=
  if_neg (mt (extension?_eq_some_iff (by decide) (by decide) (by decide)).mp other)

theorem lastName_png (base : List Char) :
    lastName (base ++ ".png".toList) = lastName base ++ ".png".toList :=
  lastName_append_of_not_mem base (by decide)

theorem trailing_png (name : List Char) : trailing (name ++ ".png".toList) = false := by
  refine trailing_of_long ?_
  have four : ".png".toList.length = 4 := by decide
  rw [List.length_append]
  omega

/-- Where the suffix is all of the last name it is no extension. -/
theorem raster_of_bare (bare : lastName p.text.toList = ".png".toList) :
    p.raster = ⟨p.text ++ ".png"⟩ := by
  refine raster_of_other ?_
  rintro ⟨base, trail, written, named, closing⟩
  rw [written] at bare
  by_cases last : trail = []
  · rw [last, List.append_nil, lastName_png] at bare
    exact named (List.append_left_eq_self.mp bare)
  · have stays := closing.lastName last (base ++ ".png".toList)
    rw [bare] at stays
    exact absurd stays (by decide)

/-- The path of an image ends in the suffix, up to what may stand behind a file name. -/
theorem raster_written (p : Path) :
    ∃ base trail, p.raster.text.toList = base ++ ".png".toList ++ trail ∧ Closing trail ∧
      (lastName base = [] → trail = []) := by
  by_cases suffix : ∃ base trail, p.text.toList = base ++ ".png".toList ++ trail ∧
      lastName base ≠ [] ∧ Closing trail
  · obtain ⟨base, trail, written, named, closing⟩ := suffix
    refine ⟨base, trail, ?_, closing, fun bare => absurd bare named⟩
    rw [raster_of_suffix written named closing, written]
  · refine ⟨p.text.toList, [], ?_, .done, fun _ => rfl⟩
    rw [raster_of_other suffix, String.toList_append, List.append_nil]

end Path

end EntityDiagram
