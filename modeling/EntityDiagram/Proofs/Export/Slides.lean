import EntityDiagram.Proofs.Export.Effects
import EntityDiagram.Proofs.Export.Height

/-! # What a slide shows

A slide is made of three things that change on their own during a run: the image the exporter
remembers, the file that has its name, and the title. The slide writer is called for a slide that
is asked for, as soon as the file can be read as an image, and it is handed what the file holds at
that moment. So a slide shows the last drawing for as long as nobody else has written to its file,
and an earlier drawing is never kept anywhere.
-/

namespace EntityDiagram

/-! ## Sizes and parts -/

theorem ImageSize.size_of_read {data : List UInt8} {size : ImageSize}
    (sized : ImageSize.read data = .ok size) :
    size.width = bigEndian (slice 16 4 data) ∧ size.height = bigEndian (slice 20 4 data) := by
  rcases Nat.lt_or_ge data.length headerLength with short | enough
  · rw [read_of_short short] at sized
    cases sized
  · have answer := (accessed?_eq data).symm.trans (accessed?_of_enough enough)
    rw [sized] at answer
    have same := Option.some.inj answer
    split at same
    · cases same
    · split at same
      · cases same
      · simp only at same
        split at same
        · cases same
        · cases same
          exact ⟨rfl, rfl⟩

/-- The one part of a deck that is an image is the data of the picture. -/
theorem Deck.image_parts (slide : Slide) :
    (Deck.parts slide).filter (·.name = Deck.imageName) =
      [{ name := Deck.imageName, data := slide.picture.data }] := by
  have others : ∀ part ∈ (Deck.documents slide).map fun entry =>
      (⟨entry.1, Text.encode entry.2.document.toList⟩ : Part), part.name ≠ Deck.imageName := by
    intro part member named
    obtain ⟨entry, listed, rfl⟩ := List.mem_map.mp member
    have fixed : Deck.imageName ∉ (Deck.documents slide).map Prod.fst := by
      change Deck.imageName ∉ ["[Content_Types].xml", "_rels/.rels", "docProps/app.xml",
        "docProps/core.xml", "ppt/presentation.xml", "ppt/_rels/presentation.xml.rels",
        "ppt/slideMasters/slideMaster1.xml", "ppt/slideMasters/_rels/slideMaster1.xml.rels",
        "ppt/slideLayouts/slideLayout1.xml", "ppt/slideLayouts/_rels/slideLayout1.xml.rels",
        "ppt/theme/theme1.xml", Deck.slideName, "ppt/slides/_rels/slide1.xml.rels"]
      decide
    exact fixed (List.mem_map.mpr ⟨entry, listed, named⟩)
  rw [Deck.parts, List.filter_append, List.filter_eq_nil_iff.mpr (by simpa using others)]
  simp

/-- The title that an operation sets. -/
def Operation.title? : Operation → Option String
  | .title text => some text
  | .render .. | .tryRender .. | .description .. | .slide _ | .writer _ | .outside _ => none

/-- What an operation draws and where. -/
def Operation.drawing? : Operation → Option (Layout × Model × Path)
  | .render layout m output | .tryRender layout m output => some (layout, m, output)
  | .description .. | .slide _ | .title _ | .writer _ | .outside _ => none

/-- The only file that an operation may write. What happens outside is not up to the exporter. -/
def Operation.target? : Operation → Option Path
  | .render _ _ output | .tryRender _ _ output => some output.raster
  | .description _ path | .slide path => some path
  | .title _ | .writer _ | .outside _ => none

namespace Exporter

/-- The title set last, or the one there was before. -/
def lastTitle (title : String) (operations : List Operation) : String :=
  (operations.filterMap Operation.title?).getLast?.getD title

/-- A slide is asked for, and the remembered image is read as `data`, which is an image of the size
`size`. -/
structure Shows (x : Exporter) (files : Files) (operation : Operation) (path image : Path)
    (data : List UInt8) (size : ImageSize) : Prop where
  asked : operation = .slide path
  rendered : x.image? = some image
  read : files.readBytes image = .ok data
  sized : ImageSize.read data = .ok size

/-- No operation of a run changes what is read at `image`. -/
def Keeps (image : Path) (x : Exporter) (files : Files) : List Operation → Prop
  | [] => True
  | operation :: rest =>
    ((x.perform files operation).2.files.readBytes image).toOption =
        (files.readBytes image).toOption ∧
      Keeps image (x.perform files operation).1 (x.perform files operation).2.files rest

variable {x : Exporter} {files : Files} {operation : Operation} {path image output : Path}
  {data : List UInt8} {size : ImageSize} {layout : Layout} {m : Model}

/-! ## Runs in two parts -/

theorem history_append (x : Exporter) (files : Files) (before after : List Operation) :
    x.history files (before ++ after) = x.history files before ++
      (x.run files before).1.history (x.run files before).2.1 after := by
  induction before generalizing x files with
  | nil => rfl
  | cons operation rest ih =>
    rw [List.cons_append, history_cons, history_cons, run_cons, ih, List.cons_append]

theorem getElem?_history (x : Exporter) (files : Files) (before : List Operation)
    (operation : Operation) (after : List Operation) :
    (x.history files (before ++ operation :: after))[before.length]? = some (operation,
      ((x.run files before).1.perform (x.run files before).2.1 operation).2) := by
  have length : (x.history files before).length = before.length := by
    rw [← List.length_map (f := Prod.fst), map_fst_history]
  rw [history_append, history_cons, ← length, List.getElem?_append_right (Nat.le_refl _),
    Nat.sub_self]
  rfl

/-! ## Titles -/

theorem tryRender_title (x : Exporter) (layout : Layout) (m : Model) (output : Path)
    (files : Files) : (x.tryRender layout m output files).1.title = x.title := by
  rw [tryRender]
  cases (writeImage layout m output.raster files).result <;> rfl

theorem tryRender_writer (x : Exporter) (layout : Layout) (m : Model) (output : Path)
    (files : Files) : (x.tryRender layout m output files).1.writer = x.writer := by
  rw [tryRender]
  cases (writeImage layout m output.raster files).result <;> rfl

theorem perform_title (x : Exporter) (files : Files) (operation : Operation) :
    (x.perform files operation).1.title = operation.title?.getD x.title := by
  cases operation with
  | render layout m output =>
    have same := (render_eq_tryRender x files layout m output).2.1
    change (x.render layout m output files).1.title = x.title
    rw [same, tryRender_title]
  | tryRender layout m output => exact tryRender_title x layout m output files
  | description m path => rfl
  | slide path => rfl
  | title title => rfl
  | writer writer => rfl
  | outside change => rfl

theorem run_title (x : Exporter) (files : Files) (operations : List Operation) :
    (x.run files operations).1.title = lastTitle x.title operations := by
  induction operations generalizing x files with
  | nil => rfl
  | cons operation rest ih =>
    rw [run_cons, ih, perform_title, lastTitle, lastTitle]
    cases set : operation.title? with
    | none =>
      rw [List.filterMap_cons_none set]
      rfl
    | some title =>
      rw [List.filterMap_cons_some set, List.getLast?_cons]
      rfl

/-! ## Slides -/

theorem picture_height (sized : ImageSize.read data = .ok size) :
    (picture data size).height = 7315200 * ImageSize.bigEndian (ImageSize.slice 20 4 data) /
      ImageSize.bigEndian (ImageSize.slice 16 4 data) := by
  have proper := ImageSize.proper_of_read sized
  obtain ⟨width, height⟩ := ImageSize.size_of_read sized
  rw [height_picture sized, ImageSize.scaledHeight_eq proper.width_pos pictureWidth_nonneg, ← width,
    ← height]
  rfl

theorem tryRender_shown (x : Exporter) (layout : Layout) (m : Model) (output : Path)
    (files : Files) : (x.tryRender layout m output files).2.shown = [] := by
  have unshown : (writeImage layout m output.raster files).shown = [] := by
    simp only [writeImage]
    repeat' split
    all_goals rfl
  rw [tryRender]
  cases (writeImage layout m output.raster files).result <;> exact unshown

theorem shown_of_not_slide (other : ∀ path, operation ≠ .slide path) :
    (x.perform files operation).2.shown = [] := by
  cases operation with
  | render layout m output =>
    have same := (render_eq_tryRender x files layout m output).2.2.2.2
    exact same.trans (tryRender_shown x layout m output files)
  | tryRender layout m output => exact tryRender_shown x layout m output files
  | description m path =>
    change (exportDescription m path files).shown = []
    rw [exportDescription]
    cases files.write path (.bytes (Text.encode (Description.text m))) <;> rfl
  | slide path => exact absurd rfl (other path)
  | title text => rfl
  | writer other => rfl
  | outside change => rfl

/-- The slide writer is called for a slide of a readable image, and for nothing else. -/
theorem shown_ne_nil_iff (x : Exporter) (files : Files) (operation : Operation) :
    (x.perform files operation).2.shown ≠ [] ↔
      ∃ path image data size, x.Shows files operation path image data size := by
  constructor
  · intro called
    have asked : ∃ path, operation = .slide path :=
      Classical.byContradiction fun other =>
        called (shown_of_not_slide fun path slide => other ⟨path, slide⟩)
    obtain ⟨path, rfl⟩ := asked
    change (x.exportSlide path files).shown ≠ [] at called
    cases rendered : x.image? with
    | none =>
      rw [exportSlide_of_image?_none files rendered] at called
      exact absurd rfl called
    | some image =>
      cases read : files.readBytes image with
      | error cause =>
        rw [exportSlide_of_unreadable files rendered read] at called
        exact absurd rfl called
      | ok data =>
        cases sized : ImageSize.read data with
        | error e =>
          rw [exportSlide_of_unsized files rendered read sized] at called
          exact absurd rfl called
        | ok size => exact ⟨path, image, data, size, rfl, rendered, read, sized⟩
  · rintro ⟨path, image, data, size, rfl, rendered, read, sized⟩
    obtain ⟨-, -, shown⟩ := exportSlide_of_readable files rendered read sized path
    change (x.exportSlide path files).shown ≠ []
    rw [shown]
    exact List.cons_ne_nil _ _

/-- It is handed the image as it is, and its answer and its files are those of the step. -/
theorem Shows.shown (shows : x.Shows files operation path image data size) :
    let slide : Slide := { title := x.title, picture := picture data size }
    let outcome := (x.perform files operation).2
    outcome.shown = [(slide, path)] ∧
      outcome.result = (x.writer slide path files).1.map (fun _ => .done) ∧
      outcome.files = (x.writer slide path files).2 := by
  intro slide outcome
  obtain ⟨rfl, rendered, read, sized⟩ := shows
  obtain ⟨result, left, shown⟩ := exportSlide_of_readable files rendered read sized path
  exact ⟨shown, congrArg (Except.map fun _ => Answer.done) result, left⟩

/-! ## What happens to an image -/

theorem perform_touched (assembled : ∃ assemble, x.writer = .assembled assemble)
    (target : operation.target? = some path) :
    files.Touched path (x.perform files operation).2.files := by
  cases operation with
  | render layout m output =>
    cases target
    have same := (render_eq_tryRender x files layout m output).2.2.1
    change files.Touched _ (x.render layout m output files).2.files
    rw [same]
    exact (ends_of_tryRender x layout m output files).touched
  | tryRender layout m output =>
    cases target
    exact (ends_of_tryRender x layout m output files).touched
  | description m other =>
    cases target
    exact exportDescription_touched m path files
  | slide other =>
    cases target
    exact exportSlide_touched assembled path files
  | title text => cases target
  | writer other => cases target
  | outside change => cases target

theorem perform_untargeted (inside : ∀ change, operation ≠ .outside change)
    (untargeted : operation.target? = none) : (x.perform files operation).2.files = files := by
  cases operation with
  | render layout m output => cases untargeted
  | tryRender layout m output => cases untargeted
  | description m path => cases untargeted
  | slide path => cases untargeted
  | title text => rfl
  | writer other => rfl
  | outside change => exact absurd rfl (inside change)

/-- Whatever an operation writes, what paths to other places lead to is as it was. -/
theorem perform_elsewhere (assembled : ∃ assemble, x.writer = .assembled assemble)
    (inside : ∀ change, operation ≠ .outside change)
    (apart : ∀ path, operation.target? = some path → files.locate image ≠ files.locate path) :
    ((x.perform files operation).2.files.look image).toOption = (files.look image).toOption := by
  cases target : operation.target? with
  | none => rw [perform_untargeted inside target]
  | some path =>
    refine (perform_touched assembled target).look fun place led leads => ?_
    exact apart path target (led.trans leads.symm)

theorem Keeps.toOption_readBytes {operations : List Operation}
    (kept : Keeps image x files operations) :
    ((x.run files operations).2.1.readBytes image).toOption =
      (files.readBytes image).toOption := by
  induction operations generalizing x files with
  | nil => rfl
  | cons operation rest ih => exact (ih kept.2).trans kept.1

theorem Keeps.readBytes {operations : List Operation} (kept : Keeps image x files operations)
    (read : files.readBytes image = .ok data) :
    (x.run files operations).2.1.readBytes image = .ok data := by
  have content := kept.toOption_readBytes
  rw [read] at content
  exact Files.eq_ok_of_toOption content

theorem tryRender_of_ok (drawn : (x.tryRender layout m output files).2.result = .ok image) :
    image = output.raster ∧ (x.tryRender layout m output files).1.image? = some image ∧
      ∃ data, Draws layout m data ∧
        (x.tryRender layout m output files).2.files.Holds image (.bytes data) := by
  have ends := ends_of_tryRender x layout m output files
  have succeeded : (x.tryRender layout m output files).2.result.isOk = true := by rw [drawn]; rfl
  rw [drawn] at ends
  obtain ⟨rfl, -⟩ := ends.ok_iff.mp rfl
  obtain ⟨data, draws, -, written⟩ := ends.writtenAt_of_ok
  exact ⟨rfl, by rw [tryRender_image?, if_pos succeeded], data, draws, written.holds⟩

theorem tryRender_drawn (drawn : (x.tryRender layout m output files).2.result.isOk = true)
    (draws : Draws layout m data) :
    (x.tryRender layout m output files).1.image? = some output.raster ∧
      (x.tryRender layout m output files).2.files.Holds output.raster (.bytes data) := by
  cases result : (x.tryRender layout m output files).2.result with
  | error e =>
    rw [result] at drawn
    cases drawn
  | ok image =>
    obtain ⟨rfl, rendered, others, found, held⟩ := tryRender_of_ok result
    obtain rfl := found.unique draws
    exact ⟨rendered, held⟩

/-- A drawing that succeeds is remembered and is in its file, whichever way it was asked for. -/
theorem perform_drawn (drawing : operation.drawing? = some (layout, m, output))
    (drawn : (x.perform files operation).2.succeeded = true) (draws : Draws layout m data) :
    (x.perform files operation).1.image? = some output.raster ∧
      (x.perform files operation).2.files.Holds output.raster (.bytes data) := by
  cases operation with
  | render layout m output =>
    cases drawing
    obtain ⟨answer, next, left, -⟩ := render_eq_tryRender x files layout m output
    have succeeded := (answered_flag_succeeded answer).symm.trans drawn
    change (x.render layout m output files).1.image? = _ ∧
      (x.render layout m output files).2.files.Holds _ _
    rw [next, left]
    exact tryRender_drawn succeeded draws
  | tryRender layout m output =>
    cases drawing
    exact tryRender_drawn ((answered_image_succeeded _).symm.trans drawn) draws
  | description m path => cases drawing
  | slide path => cases drawing
  | title text => cases drawing
  | writer other => cases drawing
  | outside change => cases drawing

/-- What is remembered after drawings that all failed was remembered before, and nothing was drawn
in between. -/
theorem image?_of_undrawn {operations : List Operation}
    (undrawn : ∀ step ∈ x.history files operations, step.1.output? ≠ none →
      step.2.succeeded = false)
    (rendered : (x.run files operations).1.image? = some image) : x.image? = some image := by
  rcases (run_image?_iff x files operations image).mp rendered with drawn | ⟨before, -⟩
  · obtain ⟨before, step, outcome, after, output, split, asked, succeeded, -⟩ := drawn
    have failed := undrawn (step, outcome) (split ▸ List.mem_append_right _ (List.mem_cons_self ..))
      (asked ▸ Option.some_ne_none output)
    rw [succeeded] at failed
    cases failed
  · exact before

/-- A deck of a readable image is written, and its one image is what was read. -/
theorem deck_of_readable (writer : x.writer = .deck) (rendered : x.image? = some image)
    (read : files.readBytes image = .ok data) (sized : ImageSize.read data = .ok size)
    (writable : ∃ location, files.target path = .ok location) :
    (x.perform files (.slide path)).2.succeeded = true ∧
      ∃ parts, (x.perform files (.slide path)).2.files.Holds path (.archive parts) ∧
        parts.filter (·.name = Deck.imageName) = [{ name := Deck.imageName, data }] := by
  have shows : x.Shows files (.slide path) path image data size := ⟨rfl, rendered, read, sized⟩
  obtain ⟨-, result, left⟩ := shows.shown
  obtain ⟨location, target⟩ := writable
  have written : ∀ content, files.write path content =
      .ok (files.setNode location (.file content (files.rights location))) := by
    intro content
    rw [Files.write, target]
  rw [writer, SlideWriter.deck, SlideWriter.assembled] at result left
  simp only [written] at result left
  refine ⟨?_, Deck.parts { title := x.title, picture := picture data size }, ?_,
    Deck.image_parts _⟩
  · rw [Outcome.succeeded, result]
    rfl
  · rw [left]
    exact (Files.writtenAt_of_write (written _)).holds

/-- In every run the slide writer is called by the steps that ask for a slide of an image that can
be read, once each, with the path asked for, the title set last and the image as it is at that
moment, whose height follows from the size in its own bytes. A step of the exporter leaves an image
alone that is elsewhere than what the step may write. So, once a drawing has succeeded and may be
read, and as long as no later one does and nobody else changes its file, a deck that can be written
is written and holds what that drawing gave. -/
theorem slide_shows_image :
    (∀ (x : Exporter) files before operation after,
      let y := (x.run files before).1
      let left := (x.run files before).2.1
      ∃ outcome, (x.history files (before ++ operation :: after))[before.length]? =
          some (operation, outcome) ∧
        (outcome.shown ≠ [] ↔
          ∃ path image data size, y.Shows left operation path image data size) ∧
        ∀ path image data size, y.Shows left operation path image data size →
          ∃ slide : Slide, outcome.shown = [(slide, path)] ∧
            slide.title = lastTitle x.title before ∧ slide.picture.data = data ∧
            slide.picture.height = 7315200 * ImageSize.bigEndian (ImageSize.slice 20 4 data) /
              ImageSize.bigEndian (ImageSize.slice 16 4 data) ∧
            outcome.result = (y.writer slide path left).1.map (fun _ => .done) ∧
            outcome.files = (y.writer slide path left).2) ∧
    (∀ (x : Exporter) files operation image, (∃ assemble, x.writer = .assembled assemble) →
      (∀ change, operation ≠ .outside change) →
      (∀ path, operation.target? = some path → files.locate image ≠ files.locate path) →
        ((x.perform files operation).2.files.readBytes image).toOption =
          (files.readBytes image).toOption) ∧
    ∀ (x : Exporter) files drawing between path image layout m output data size,
      let next := (x.perform files drawing).1
      let drawn := (x.perform files drawing).2
      let y := (next.run drawn.files between).1
      let left := (next.run drawn.files between).2.1
      drawing.drawing? = some (layout, m, output) → drawn.succeeded = true →
      Draws layout m data → ImageSize.read data = .ok size →
      drawn.files.readBytes image ≠ .error .permissionDenied →
      (∀ step ∈ next.history drawn.files between, step.1.output? ≠ none →
        step.2.succeeded = false) →
      Keeps image next drawn.files between → y.image? = some image → y.writer = .deck →
      (∃ location, left.target path = .ok location) →
        image = output.raster ∧ (y.perform left (.slide path)).2.succeeded = true ∧
          ∃ parts, (y.perform left (.slide path)).2.files.Holds path (.archive parts) ∧
            parts.filter (·.name = Deck.imageName) = [{ name := Deck.imageName, data }] := by
  refine ⟨fun x files before operation after => ?_,
    fun x files operation image assembled inside apart => ?_,
    fun x files drawing between path image layout m output data size => ?_⟩
  · intro y left
    refine ⟨_, getElem?_history x files before operation after, shown_ne_nil_iff y left operation,
      fun path image data size shows => ?_⟩
    obtain ⟨shown, result, files⟩ := shows.shown
    exact ⟨_, shown, run_title x _ before, rfl, picture_height shows.sized, result, files⟩
  · exact Files.toOption_readBytes_of_look (perform_elsewhere assembled inside apart)
  · intro next drawn y left asked succeeded draws sized allowed undrawn kept rendered writer
      writable
    obtain ⟨remembered, held⟩ := perform_drawn asked succeeded draws
    obtain rfl : output.raster = image :=
      Option.some.inj (remembered.symm.trans (image?_of_undrawn undrawn rendered))
    have read := kept.readBytes (held.readBytes allowed)
    exact ⟨rfl, deck_of_readable writer rendered read sized writable⟩

/-- An older image is drawn over, a description is written next to it and the title is changed; the
slide has the new title and the new image. -/
theorem slide_shows_image_retitled :
    let header : List UInt8 := ImageSize.signature ++ [0, 0, 0, 13] ++ ImageSize.headerName ++
      [0, 0, 0, 2, 0, 0, 0, 1]
    let files : Files := { nodes := [(["er.png"], .file (.bytes [1, 2]))] }
    let x : Exporter := { image? := some ⟨"er.png"⟩ }
    let drawing : Operation := .render (fun _ => pure (.ok header)) .empty ⟨"er"⟩
    let between : List Operation := [.description .empty ⟨"er.dot"⟩, .title "Hotel"]
    let y := (x.run files (drawing :: between)).1
    let left := (x.run files (drawing :: between)).2.1
    let outcome := (y.perform left (.slide ⟨"er.pptx"⟩)).2
    (∃ slide : Slide, outcome.shown = [(slide, ⟨"er.pptx"⟩)] ∧ slide.title = "Hotel" ∧
      slide.picture.data = header ∧ slide.picture.height = 3657600) ∧
    outcome.succeeded = true ∧ ∃ parts, outcome.files.Holds ⟨"er.pptx"⟩ (.archive parts) ∧
      parts.filter (·.name = Deck.imageName) = [{ name := Deck.imageName, data := header }] := by
  intro header files x drawing between y left outcome
  obtain ⟨steps, -, decks⟩ := slide_shows_image
  have draws : Draws (fun _ => pure (.ok header)) .empty header := ⟨_, rfl, rfl⟩
  have sized : ImageSize.read header = .ok { width := 2, height := 1 } := by cbv
  have drawn : (x.perform files drawing).2.succeeded = true := by decide +kernel
  have rendered : y.image? = some ⟨"er.png"⟩ := by decide +kernel
  have kept : Keeps ⟨"er.png"⟩ (x.perform files drawing).1 (x.perform files drawing).2.files
      between := ⟨by decide +kernel, by decide +kernel, trivial⟩
  have written : (x.perform files drawing).2.files.readBytes ⟨"er.png"⟩ = .ok header :=
    Files.eq_ok_of_toOption (by decide +kernel)
  have read : left.readBytes ⟨"er.png"⟩ = .ok header := kept.readBytes written
  constructor
  · obtain ⟨found, entry, -, shown⟩ := steps x files (drawing :: between) (.slide ⟨"er.pptx"⟩) []
    rw [getElem?_history] at entry
    cases entry
    obtain ⟨slide, given, title, data, height, -⟩ :=
      shown ⟨"er.pptx"⟩ ⟨"er.png"⟩ header _ ⟨rfl, rendered, read, sized⟩
    exact ⟨slide, given, title, data, height.trans (by decide)⟩
  · have undrawn : ∀ step ∈ (x.perform files drawing).1.history
        (x.perform files drawing).2.files between, step.1.output? ≠ none →
          step.2.succeeded = false := by
      intro step member asked
      have listed := List.mem_map_of_mem (f := Prod.fst) member
      rw [map_fst_history] at listed
      rcases List.mem_cons.mp listed with description | title
      · exact absurd (congrArg Operation.output? description) asked
      · exact absurd (congrArg Operation.output? (List.mem_singleton.mp title)) asked
    have allowed := Files.allowed_of_readBytes written
    exact (decks x files drawing between ⟨"er.pptx"⟩ ⟨"er.png"⟩ _ .empty ⟨"er"⟩ header _ rfl
      drawn draws sized allowed undrawn kept rendered rfl ⟨_, rfl⟩).2

end Exporter

end EntityDiagram
