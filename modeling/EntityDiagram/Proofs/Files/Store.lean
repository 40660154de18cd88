import EntityDiagram.Files.Store

/-! # What a write changes

Paths lead through directories only, so the ways through a store are settled by which locations
are directories and may be searched. A write puts a file where there is none, or a file already, and
keeps its rights: it neither makes nor takes a directory. Hence every path leads where it led
before, and what it leads to is different only at the place of the write.
-/

namespace EntityDiagram.Files

variable {files after : Files} {location next : Location} {p : Path} {content : Content}

theorem eq_ok_of_toOption {ε α : Type} {result : Except ε α} {a : α}
    (same : result.toOption = some a) : result = .ok a := by
  cases result with
  | error e => cases same
  | ok b => exact congrArg Except.ok (Option.some.inj same)

theorem node?_setNode {node : FileNode} (below : location ≠ []) (other : Location) :
    (files.setNode location node).node? other =
      if other = location then some node else files.node? other := by
  cases other with
  | nil => rw [if_neg below.symm]; rfl
  | cons name rest =>
    by_cases same : name :: rest = location
    · subst same
      simp [node?, setNode]
    · have others : (files.nodes.filter (·.1 ≠ location)).find? (·.1 = name :: rest) =
          files.nodes.find? (·.1 = name :: rest) := by
        rw [List.find?_filter]
        congr 1
        funext entry
        by_cases here : entry.1 = name :: rest
        · simp [here, same]
        · simp [here]
      simp only [node?, setNode, List.find?_cons, same, Ne.symm same, if_false, decide_false, others]

/-! ## Ways through a store -/

theorem node?_of_step {segment : String} (stepped : files.step location segment = .ok next) :
    ∃ access, files.node? location = some (.directory access) := by
  rw [step] at stepped
  split at stepped
  · cases stepped
  · cases stepped
  · next access found => exact ⟨access, found⟩

/-- A name is only looked for in a directory that may be searched. -/
theorem searchable_of_step {segment : String} (named : segment ≠ "")
    (stepped : files.step location segment = .ok next) :
    ∃ access, files.node? location = some (.directory access) ∧ access.searchable = true := by
  obtain ⟨access, found⟩ := node?_of_step stepped
  rw [step, found] at stepped
  simp only [named, if_false] at stepped
  cases search : access.searchable with
  | false => rw [if_pos search] at stepped; cases stepped
  | true => exact ⟨access, found, search⟩

theorem eq_of_step_dot (stepped : files.step location "." = .ok next) : next = location := by
  obtain ⟨access, found, search⟩ := searchable_of_step (by decide) stepped
  have named : "." ≠ "" := by decide
  rw [step, found] at stepped
  simp only [named, search, Bool.true_eq_false, if_false, if_true] at stepped
  exact (Except.ok.inj stepped).symm

theorem walk_append (location : Location) (before behind : List String) :
    files.walk location (before ++ behind) =
      (files.walk location before).bind (files.walk · behind) := by
  induction before generalizing location with
  | nil => rfl
  | cons segment rest ih =>
    rw [List.cons_append, walk, walk]
    cases files.step location segment with
    | error e => rfl
    | ok next => exact ih next

theorem walk_singleton (segment : String) :
    files.walk location [segment] = files.step location segment := by
  rw [walk]
  cases files.step location segment <;> rfl

/-- The same locations are directories, with the same rights. -/
def SameDirectories (files after : Files) : Prop :=
  ∀ location access, after.node? location = some (.directory access) ↔
    files.node? location = some (.directory access)

theorem SameDirectories.toOption_step (same : files.SameDirectories after) (location : Location)
    (segment : String) :
    (after.step location segment).toOption = (files.step location segment).toOption := by
  by_cases directory : ∃ access, files.node? location = some (.directory access)
  · obtain ⟨access, found⟩ := directory
    rw [step, step, found, (same location access).mpr found]
  · have stays : ∀ store : Files, (¬∃ access, store.node? location = some (.directory access)) →
        (store.step location segment).toOption = none := by
      intro store other
      cases stepped : store.step location segment with
      | error e => rfl
      | ok next => exact absurd (node?_of_step stepped) other
    rw [stays files directory, stays after fun ⟨access, found⟩ =>
      directory ⟨access, (same location access).mp found⟩]

theorem SameDirectories.toOption_walk (same : files.SameDirectories after) (location : Location)
    (segments : List String) :
    (after.walk location segments).toOption = (files.walk location segments).toOption := by
  induction segments generalizing location with
  | nil => rfl
  | cons segment rest ih =>
    have stepped := same.toOption_step location segment
    rw [walk, walk]
    cases before : files.step location segment with
    | error e =>
      cases now : after.step location segment with
      | error e => rfl
      | ok next => rw [before, now] at stepped; cases stepped
    | ok next =>
      cases now : after.step location segment with
      | error e => rw [before, now] at stepped; cases stepped
      | ok other =>
        rw [before, now] at stepped
        cases stepped
        exact ih next

theorem SameDirectories.toOption_locate (same : files.SameDirectories after)
    (here : after.here = files.here) (p : Path) :
    (after.locate p).toOption = (files.locate p).toOption := by
  rw [locate, locate, start, start, here]
  cases checkName p with
  | error e => rfl
  | ok done => exact same.toOption_walk _ _

theorem SameDirectories.locate_of_locate (same : files.SameDirectories after)
    (here : after.here = files.here) (led : files.locate p = .ok location) :
    after.locate p = .ok location := by
  have leads := same.toOption_locate here p
  rw [led] at leads
  exact eq_ok_of_toOption leads

/-! ## Where a write goes -/

/-- There is no directory at the location. -/
def Free (files : Files) (location : Location) : Prop :=
  ∀ access, files.node? location ≠ some (.directory access)

theorem entry_spec {directory : Location} {name : String} {slashed : Bool}
    (found : files.entry directory name slashed = .ok location) :
    slashed = false ∧ files.step directory name = .ok location ∧ files.Free location := by
  rw [entry] at found
  cases entered : files.step directory "." with
  | error e => rw [entered] at found; cases found
  | ok inside =>
    obtain rfl := eq_of_step_dot entered
    simp only [entered] at found
    cases slashed with
    | true => cases found
    | false =>
      cases stepped : files.step inside name with
      | error e => simp only [stepped] at found; cases found
      | ok reached =>
        simp only [stepped, Bool.false_eq_true, if_false] at found
        split at found
        · cases found
        · next content access there =>
          split at found
          · cases found
            exact ⟨rfl, rfl, fun access directory => nomatch there.symm.trans directory⟩
          · cases found
        · next nothing =>
          split at found
          · cases found
            exact ⟨rfl, rfl, fun access directory => nomatch nothing.symm.trans directory⟩
          · cases found

/-- Nothing is cut off a path that does not end in a slash. -/
theorem named_fst (whole : (named p).2 = false) : (named p).1 = names p := by
  have cut : (named p).1 <+: names p := by
    have behind := List.reverse_prefix.mpr (List.dropWhile_suffix (· = "") (l := (names p).reverse))
    rwa [List.reverse_reverse] at behind
  refine cut.eq_of_length_le ?_
  exact Nat.not_lt.mp (of_decide_eq_false whole)

/-- A path may be written where it leads, which is not a directory. -/
theorem target_spec (found : files.target p = .ok location) :
    files.locate p = .ok location ∧ files.Free location := by
  rw [target] at found
  cases checked : checkName p with
  | error e => rw [checked] at found; cases found
  | ok done =>
    rw [checked] at found
    cases last : (named p).1.getLast? with
    | none => simp only [last] at found; cases found
    | some name =>
      cases walked : files.walk (files.start p) (named p).1.dropLast with
      | error e => simp only [last, walked] at found; cases found
      | ok directory =>
        simp only [last, walked] at found
        obtain ⟨whole, stepped, free⟩ := entry_spec found
        have split : names p = (named p).1.dropLast ++ [name] := by
          obtain ⟨before, kept⟩ := List.getLast?_eq_some_iff.mp last
          rw [kept, List.dropLast_concat, ← kept, named_fst whole]
        have led : files.locate p = .ok location := by
          rw [locate, checked]
          change files.walk (files.start p) (names p) = .ok location
          rw [split, walk_append, walked]
          exact (walk_singleton name).trans stepped
        exact ⟨led, free⟩

/-! ## What is read -/

/-- What stands at a path settles what is read there, the reason for a failure included. -/
theorem read_of_look {node : FileNode} (before : files.look p = .ok node)
    (now : after.look p = .ok node) : after.read p = files.read p := by
  rw [read, read, before, now]

theorem readBytes_of_look {node : FileNode} (before : files.look p = .ok node)
    (now : after.look p = .ok node) : after.readBytes p = files.readBytes p := by
  rw [readBytes, readBytes, read_of_look before now]

theorem read_file {access : Access} (looked : files.look p = .ok (.file content access)) :
    files.read p = if access.readable then .ok content else .error .permissionDenied := by
  rw [read, looked]
  rfl

/-- What is read at a path depends on what it leads to only. -/
theorem toOption_read_of_look (same : (after.look p).toOption = (files.look p).toOption) :
    (after.read p).toOption = (files.read p).toOption := by
  cases before : files.look p with
  | error e =>
    cases now : after.look p with
    | error e => rw [read, read, before, now]; rfl
    | ok node => rw [before, now] at same; cases same
  | ok node =>
    rw [before] at same
    rw [read_of_look before (eq_ok_of_toOption same)]

theorem toOption_readBytes_of_look (same : (after.look p).toOption = (files.look p).toOption) :
    (after.readBytes p).toOption = (files.readBytes p).toOption := by
  have mapped : ∀ store : Files,
      (store.readBytes p).toOption = (store.read p).toOption.map Content.toBytes := by
    intro store
    rw [readBytes]
    cases store.read p <;> rfl
  rw [mapped, mapped, toOption_read_of_look same]

/-- `content` stands at `p`, and is what is read there unless reading is denied. -/
structure Holds (files : Files) (p : Path) (content : Content) : Prop where
  stands : ∃ access, files.look p = .ok (.file content access)
  reads : files.read p ≠ .error .permissionDenied → files.read p = .ok content

theorem holds_of_look {access : Access} (looked : files.look p = .ok (.file content access)) :
    files.Holds p content := by
  refine ⟨⟨access, looked⟩, fun allowed => ?_⟩
  rw [read_file looked] at allowed ⊢
  split
  · rfl
  · next unreadable => exact absurd (if_neg unreadable) allowed

theorem allowed_of_readBytes {data : List UInt8} (read : files.readBytes p = .ok data) :
    files.readBytes p ≠ .error .permissionDenied := by
  rw [read]
  rintro ⟨⟩

theorem Holds.readBytes (holds : files.Holds p content)
    (allowed : files.readBytes p ≠ .error .permissionDenied) :
    files.readBytes p = .ok content.toBytes := by
  have read := holds.reads fun denied => allowed (by rw [Files.readBytes, denied]; rfl)
  rw [Files.readBytes, read]
  rfl

/-! ## What it leaves -/

/-- `after` is `files` but for a file with `content` where `p` leads. So `p` leads to `content`, and
what stood behind any path that leads elsewhere still stands there. -/
structure WrittenAt (files : Files) (p : Path) (content : Content) (after : Files) : Prop where
  here : after.here = files.here
  place : ∃ location, files.locate p = .ok location ∧ ∀ other,
    after.node? other =
      if other = location then some (.file content (files.rights location)) else files.node? other
  holds : after.Holds p content
  elsewhere : ∀ q, files.locate q ≠ files.locate p →
    (after.look q).toOption = (files.look q).toOption

theorem size?_of_look {access : Access} (looked : files.look p = .ok (.file content access)) :
    files.size? p = some content.toBytes.length := by
  rw [size?, looked]

theorem toOption_look (q : Path) :
    (files.look q).toOption = (files.locate q).toOption.bind files.node? := by
  rw [look]
  cases files.locate q with
  | error e => rfl
  | ok location =>
    simp only [Except.toOption, Option.bind_some]
    cases files.node? location <;> rfl

/-- The place of a write was no directory, and all other places are as before. -/
theorem write_spec (written : files.write p content = .ok after) :
    ∃ location, files.locate p = .ok location ∧ files.Free location ∧ after.here = files.here ∧
      ∀ other, after.node? other =
        if other = location then some (.file content (files.rights location))
        else files.node? other := by
  rw [write] at written
  cases found : files.target p with
  | error e => rw [found] at written; cases written
  | ok location =>
    rw [found] at written
    cases written
    obtain ⟨led, free⟩ := target_spec found
    have below : location ≠ [] := fun root => free files.root (by rw [root]; rfl)
    exact ⟨location, led, free, rfl, fun place => node?_setNode below place⟩

theorem sameDirectories_of_write (written : files.write p content = .ok after) :
    files.SameDirectories after := by
  obtain ⟨location, -, free, -, nodes⟩ := write_spec written
  intro place access
  rw [nodes place]
  split
  · next here => rw [here]; exact iff_of_false (by simp) (free access)
  · rfl

theorem writtenAt_of_write (written : files.write p content = .ok after) :
    files.WrittenAt p content after := by
  obtain ⟨location, led, -, here, nodes⟩ := write_spec written
  have same := sameDirectories_of_write written
  have looked : after.look p = .ok (.file content (files.rights location)) := by
    rw [look, same.locate_of_locate here led]
    simp only [nodes, if_true]
  refine ⟨here, ⟨location, led, nodes⟩, holds_of_look looked, fun q apart => ?_⟩
  rw [toOption_look, toOption_look, same.toOption_locate here]
  cases leads : files.locate q with
  | error e => rfl
  | ok place =>
    change after.node? place = files.node? place
    rw [nodes, if_neg]
    intro meets
    exact apart (by rw [leads, led, meets])

/-! ## At most one write -/

/-- Between the two lies at most one write, and it is to `p`. -/
def Touched (files : Files) (p : Path) (after : Files) : Prop :=
  after = files ∨ ∃ content, files.write p content = .ok after

theorem Touched.locate_eq_ok_iff (touched : files.Touched p after) (q : Path) :
    after.locate q = .ok location ↔ files.locate q = .ok location := by
  rcases touched with rfl | ⟨content, written⟩
  · rfl
  · have same := sameDirectories_of_write written
    have here := (writtenAt_of_write written).here
    have back : after.SameDirectories files := fun place access => (same place access).symm
    exact ⟨back.locate_of_locate here.symm, same.locate_of_locate here⟩

theorem Touched.node? (touched : files.Touched p after) (apart : files.locate p ≠ .ok location) :
    after.node? location = files.node? location := by
  rcases touched with rfl | ⟨content, written⟩
  · rfl
  · obtain ⟨place, led, nodes⟩ := (writtenAt_of_write written).place
    rw [nodes, if_neg]
    intro here
    exact apart (here ▸ led)

theorem Touched.look {q : Path} (touched : files.Touched p after)
    (apart : ∀ place, files.locate q = .ok place → files.locate p ≠ .ok place) :
    (after.look q).toOption = (files.look q).toOption := by
  rw [toOption_look, toOption_look]
  cases led : files.locate q with
  | error e =>
    cases now : after.locate q with
    | error e => rfl
    | ok place =>
      cases led.symm.trans ((touched.locate_eq_ok_iff q).mp now)
  | ok place =>
    rw [(touched.locate_eq_ok_iff q).mpr led]
    exact touched.node? (apart place led)

theorem Touched.look_of_look {q : Path} {node : FileNode} (touched : files.Touched p after)
    (apart : ∀ place, files.locate q = .ok place → files.locate p ≠ .ok place)
    (looked : files.look q = .ok node) : after.look q = .ok node := by
  have same := touched.look apart
  rw [looked] at same
  exact eq_ok_of_toOption same

end EntityDiagram.Files
