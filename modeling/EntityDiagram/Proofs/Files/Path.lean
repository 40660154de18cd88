import EntityDiagram.Proofs.Files.Name
import EntityDiagram.Proofs.Files.Store

/-! # Names and places

The place that a path leads to has the file name of the path as its last name, whatever directories
the path goes through. An image has a file name that ends in its extension, and a path made from it
by another extension has a file name that ends in that one, or leads up, so the two never lead to
one place.
-/

namespace EntityDiagram

namespace Path

open Text

variable {p : Path} {name extension : List Char}

theorem trailing_of_core (last : p.coreSegments.getLast? = some name) : trailing name = false := by
  have kept := List.head?_dropWhile_not trailing p.segments.reverse
  rw [coreSegments, List.getLast?_reverse] at last
  rwa [last] at kept

/-- A file name is the last segment of the core and leads somewhere new. -/
theorem fileName?_eq_some_iff :
    p.fileName? = some name ↔ p.coreSegments.getLast? = some name ∧ name ≠ ['.', '.'] := by
  rw [fileName?]
  cases p.coreSegments.getLast? with
  | none => simp
  | some last =>
    by_cases up : last = ['.', '.']
    · subst up
      simp only [if_true, Option.some.injEq, false_iff, reduceCtorEq]
      rintro ⟨rfl, other⟩
      exact other rfl
    · simp only [up, if_false, Option.some.injEq]
      constructor
      · rintro rfl
        exact ⟨rfl, up⟩
      · exact And.left

/-- What is written behind a path, and is no mere dots, is the end of its file name. -/
theorem fileName?_append (p : Path) {tail : String} (whole : '/' ∉ tail.toList)
    (long : 2 < tail.toList.length) :
    ∃ before, (⟨p.text ++ tail⟩ : Path).fileName? = some (before ++ tail.toList) := by
  have written : (p.text ++ tail).toList = p.text.toList ++ tail.toList ++ [] := by
    rw [String.toList_append, List.append_nil]
  have last := lastName_append_of_not_mem p.text.toList whole
  have size : 2 < (lastName p.text.toList ++ tail.toList).length := by
    rw [List.length_append]
    omega
  refine ⟨lastName p.text.toList, ?_⟩
  rw [← last] at size ⊢
  refine fileName?_of_closing written .done (trailing_of_long (by omega)) fun up => ?_
  rw [up] at size
  exact absurd size (by decide)

theorem fileName?_raster (p : Path) :
    ∃ before, p.raster.fileName? = some (before ++ ".png".toList) := by
  obtain ⟨base, trail, written, closing, -⟩ := raster_written p
  have last := lastName_append_of_not_mem base (show '/' ∉ ".png".toList by decide)
  have size : 3 < (lastName base ++ ".png".toList).length := by
    have suffix : ".png".toList.length = 4 := by decide
    rw [List.length_append]
    omega
  refine ⟨lastName base, ?_⟩
  rw [← last] at size ⊢
  refine fileName?_of_closing written closing (trailing_of_long (by omega)) fun up => ?_
  rw [up] at size
  exact absurd size (by decide)

/-- Next to an image another extension follows the stem, or the whole name where that is only the
suffix. If the stem is a dot, two dots are left of the name. -/
theorem withExtension_raster (p : Path) (extension : String) :
    (∃ front : String, p.raster.withExtension extension = ⟨front ++ ("." ++ extension)⟩) ∨
      ∃ folder, lastName folder = [] ∧ p.raster.text.toList = folder ++ "..png".toList ∧
        (p.raster.withExtension extension).text.toList = folder ++ "..".toList := by
  obtain ⟨base, trail, written, closing, bare⟩ := raster_written p
  by_cases named : lastName base = []
  · obtain rfl := bare named
    rw [List.append_nil] at written
    refine .inl ⟨p.raster.text, ?_⟩
    rw [withExtension_of_bare written named (by decide) (by decide) (by decide), String.append_assoc]
  · by_cases dot : lastName base = ['.'] ∧ trail = []
    · obtain ⟨up, rfl⟩ := dot
      obtain ⟨folder, split, directory⟩ := exists_folder base
      rw [up] at split
      refine .inr ⟨folder, directory, ?_, ?_⟩
      · rw [written, split, List.append_nil, List.append_assoc]
        rfl
      · rw [withExtension_of_dot written named closing (by decide) (by decide) (by decide) up rfl,
          String.toList_ofList, split, List.append_assoc]
        rfl
    · refine .inl ⟨String.ofList base, ?_⟩
      rw [withExtension_of_suffix written named closing (by decide) (by decide) (by decide)
        (fun up last => dot ⟨up, last⟩), String.append_assoc]

end Path

namespace Files

open EntityDiagram.Path

variable {files : Files} {location next : Location} {p q : Path} {name : List Char}

/-! ## Where names lead -/

theorem eq_of_step_trailing {segment : List Char} (stays : trailing segment = true)
    (stepped : files.step location (String.ofList segment) = .ok next) : next = location := by
  rcases Bool.or_eq_true_iff.mp stays with empty | dot
  · obtain ⟨access, found⟩ := node?_of_step stepped
    rw [List.isEmpty_iff.mp empty, step, found] at stepped
    exact (Except.ok.inj stepped).symm
  · rw [eq_of_beq dot] at stepped
    exact eq_of_step_dot stepped

theorem eq_of_step_name {segment : List Char} (moves : trailing segment = false)
    (down : segment ≠ ['.', '.'])
    (stepped : files.step location (String.ofList segment) = .ok next) :
    next = location ++ [String.ofList segment] := by
  obtain ⟨nonempty, undotted⟩ := Bool.or_eq_false_iff.mp moves
  have other : ∀ cs, segment ≠ cs → String.ofList segment ≠ String.ofList cs :=
    fun cs => mt String.ofList_injective
  have named : String.ofList segment ≠ "" := other [] (List.isEmpty_eq_false_iff.mp nonempty)
  have leaves : String.ofList segment ≠ "." := other ['.'] (beq_eq_false_iff_ne.mp undotted)
  have below : String.ofList segment ≠ ".." := other ['.', '.'] down
  obtain ⟨access, found, search⟩ := searchable_of_step named stepped
  rw [step, found] at stepped
  simp only [named, search, leaves, below, Bool.true_eq_false, if_false] at stepped
  split at stepped
  · cases stepped
  · exact (Except.ok.inj stepped).symm

theorem eq_of_step_up (stepped : files.step location ".." = .ok next) :
    next = location.dropLast := by
  obtain ⟨access, found, search⟩ := searchable_of_step (by decide) stepped
  have named : ".." ≠ "" := by decide
  have leaves : ".." ≠ "." := by decide
  rw [step, found] at stepped
  simp only [named, search, leaves, Bool.true_eq_false, if_false, if_true] at stepped
  exact (Except.ok.inj stepped).symm

theorem eq_of_walk_trailing {segments : List (List Char)}
    (stay : ∀ segment ∈ segments, trailing segment = true)
    (walked : files.walk location (segments.map String.ofList) = .ok next) : next = location := by
  induction segments generalizing location with
  | nil => exact (Except.ok.inj walked).symm
  | cons segment rest ih =>
    rw [List.map_cons, walk] at walked
    cases stepped : files.step location (String.ofList segment) with
    | error e => rw [stepped] at walked; cases walked
    | ok middle =>
      obtain rfl := eq_of_step_trailing (stay segment (List.mem_cons_self ..)) stepped
      rw [stepped] at walked
      exact ih (fun other member => stay other (List.mem_cons_of_mem segment member)) walked

/-- The last name of a place is the file name of any path that leads there. -/
theorem getLast?_of_locate (named : p.fileName? = some name)
    (led : files.locate p = .ok location) : location.getLast? = some (String.ofList name) := by
  obtain ⟨last, down⟩ := fileName?_eq_some_iff.mp named
  obtain ⟨rest, split, stay⟩ := segments_split p
  obtain ⟨before, core⟩ := List.getLast?_eq_some_iff.mp last
  rw [locate] at led
  cases checked : checkName p with
  | error e => rw [checked] at led; cases led
  | ok done =>
    rw [checked] at led
    change files.walk (files.start p) (p.segments.map String.ofList) = .ok location at led
    rw [split, core, List.append_assoc, List.map_append, walk_append] at led
    cases walked : files.walk (files.start p) (before.map String.ofList) with
    | error e => rw [walked] at led; cases led
    | ok directory =>
      rw [walked, List.singleton_append, List.map_cons] at led
      change files.walk directory (String.ofList name :: rest.map String.ofList) = .ok location at led
      rw [walk] at led
      cases stepped : files.step directory (String.ofList name) with
      | error e => rw [stepped] at led; cases led
      | ok place =>
        rw [stepped] at led
        obtain rfl := eq_of_walk_trailing stay led
        rw [eq_of_step_name (trailing_of_core last) down stepped, List.getLast?_concat]

/-- Two names in one directory, of which the second leads up. -/
theorem locate_up_ne {folder : List Char} (directory : lastName folder = [])
    (first : p.text.toList = folder ++ name) (second : q.text.toList = folder ++ "..".toList)
    (whole : '/' ∉ name) (moves : trailing name = false) (down : name ≠ ['.', '.'])
    (nonempty : name.head? = some '.') (led : files.locate p = .ok location) :
    files.locate q ≠ .ok location := by
  intro meets
  obtain ⟨directories, split⟩ := exists_directories directory
  have start : files.start q = files.start p := by
    rw [start, start, first, second, List.head?_append, List.head?_append, nonempty]
    rfl
  have walked : ∀ (r : Path) segment, '/' ∉ segment → r.text.toList = folder ++ segment →
      files.start r = files.start p → files.locate r = .ok location →
      ∃ place, files.walk (files.start p) (directories.map String.ofList) = .ok place ∧
        files.step place (String.ofList segment) = .ok location := by
    intro r segment free written same found
    rw [locate] at found
    cases checked : checkName r with
    | error e => rw [checked] at found; cases found
    | ok done =>
      rw [checked] at found
      change files.walk (files.start r) ((Text.splitAt '/' r.text.toList).map String.ofList) = _ at found
      rw [written, split segment free, List.map_append, walk_append, same] at found
      cases inside : files.walk (files.start p) (directories.map String.ofList) with
      | error e => rw [inside] at found; cases found
      | ok place =>
        rw [inside] at found
        exact ⟨place, rfl, (walk_singleton _).symm.trans found⟩
  obtain ⟨place, inside, stepped⟩ := walked p name whole first rfl led
  obtain ⟨again, inside', up⟩ := walked q "..".toList (by decide) second start meets
  cases inside.symm.trans inside'
  have shorter := congrArg List.length (eq_of_step_up up)
  rw [eq_of_step_name moves down stepped] at shorter
  simp only [List.length_dropLast, List.length_append, List.length_singleton] at shorter
  omega

/-- What is written next to an image never goes where the image goes. -/
theorem locate_withExtension_ne {extension : String} (whole : '/' ∉ ("." ++ extension).toList)
    (long : 2 < ("." ++ extension).toList.length)
    (other : ("." ++ extension).toList.getLast? ≠ some 'g')
    (led : files.locate p.raster = .ok location) :
    files.locate (p.raster.withExtension extension) ≠ .ok location := by
  rcases withExtension_raster p extension with ⟨front, next⟩ | ⟨folder, directory, first, second⟩
  · intro meets
    rw [next] at meets
    obtain ⟨before, named⟩ := fileName?_raster p
    obtain ⟨stem, renamed⟩ := fileName?_append ⟨front⟩ whole long
    have names := (getLast?_of_locate named led).symm.trans (getLast?_of_locate renamed meets)
    have same := String.ofList_injective (Option.some.inj names)
    have lasts := congrArg List.getLast? same
    have png : ".png".toList.getLast? = some 'g' := by decide
    rw [List.getLast?_append, List.getLast?_append, png] at lasts
    cases found : ("." ++ extension).toList.getLast? with
    | none =>
      rw [List.getLast?_eq_none_iff.mp found] at long
      exact absurd long (by decide)
    | some c =>
      rw [found] at lasts other
      exact other lasts.symm
  · exact locate_up_ne directory first second (by decide) (by decide) (by decide) (by decide) led

end Files

end EntityDiagram
