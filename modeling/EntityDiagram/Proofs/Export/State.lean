import EntityDiagram.Export.Operation
import EntityDiagram.Proofs.Image.Header

/-! # What an exporter remembers

The image of an exporter is that of its last drawing if that drawing succeeded, and there is none
otherwise; nothing but a drawing changes this. An exporter without an image refuses slides before
anything else happens. The two ways to draw differ in their answer only.
-/

namespace EntityDiagram

/-- Where an operation is asked to draw, if it draws. -/
def Operation.output? : Operation → Option Path
  | .render _ _ output | .tryRender _ _ output => some output
  | .description .. | .slide _ | .title _ | .writer _ | .outside _ => none

/-- Whether the answer reports a success. -/
def Outcome.succeeded (outcome : Outcome Answer) : Bool :=
  match outcome.result with
  | .ok (.flag succeeded) => succeeded
  | .ok _ => true
  | .error _ => false

/-- The last drawing of a history succeeded, and `image` is where it went. -/
def LastDrawn (history : List (Operation × Outcome Answer)) (image : Path) : Prop :=
  ∃ before operation outcome after output,
    history = before ++ (operation, outcome) :: after ∧ operation.output? = some output ∧
      outcome.succeeded = true ∧ output.raster = image ∧ ∀ later ∈ after, later.1.output? = none

theorem lastDrawn_cons {step : Operation × Outcome Answer}
    {history : List (Operation × Outcome Answer)} {image : Path} :
    LastDrawn (step :: history) image ↔ LastDrawn history image ∨
      (∃ output, step.1.output? = some output ∧ step.2.succeeded = true ∧ output.raster = image) ∧
        ∀ later ∈ history, later.1.output? = none := by
  constructor
  · rintro ⟨before, operation, outcome, after, output, split, drawn, succeeded, raster, quiet⟩
    cases before with
    | nil =>
      cases split
      exact .inr ⟨⟨output, drawn, succeeded, raster⟩, quiet⟩
    | cons first before =>
      cases split
      exact .inl ⟨before, operation, outcome, after, output, rfl, drawn, succeeded, raster, quiet⟩
  · rintro (⟨before, operation, outcome, after, output, rfl, drawn⟩ |
      ⟨⟨output, drawn, succeeded, raster⟩, quiet⟩)
    · exact ⟨step :: before, operation, outcome, after, output, rfl, drawn⟩
    · exact ⟨[], step.1, step.2, history, output, rfl, drawn, succeeded, raster, quiet⟩

/-- A history without drawings has no last one. -/
theorem not_lastDrawn_of_quiet {history : List (Operation × Outcome Answer)} {image : Path}
    (quiet : ∀ step ∈ history, step.1.output? = none) : ¬ LastDrawn history image := by
  rintro ⟨before, operation, outcome, after, output, rfl, drawn, -⟩
  have silent := quiet (operation, outcome) (List.mem_append_right _ (List.mem_cons_self ..))
  cases silent.symm.trans drawn

namespace Exporter

variable (x : Exporter) (files : Files)

/-! ## Drawing -/

theorem tryRender_image? (layout : Layout) (m : Model) (output : Path) :
    (x.tryRender layout m output files).1.image? =
      if (x.tryRender layout m output files).2.result.isOk then some output.raster else none := by
  rw [tryRender]
  cases drawn : (writeImage layout m output.raster files).result with
  | ok done => rfl
  | error e => rfl

/-- The answer of `render` is whether `tryRender` succeeds; all else is the same but for the log. -/
theorem render_eq_tryRender (layout : Layout) (m : Model) (output : Path) :
    (x.render layout m output files).2.result =
        .ok (x.tryRender layout m output files).2.result.isOk ∧
      (x.render layout m output files).1 = (x.tryRender layout m output files).1 ∧
      (x.render layout m output files).2.files = (x.tryRender layout m output files).2.files ∧
      (x.render layout m output files).2.drawn = (x.tryRender layout m output files).2.drawn ∧
      (x.render layout m output files).2.shown = (x.tryRender layout m output files).2.shown := by
  rw [render]
  cases (x.tryRender layout m output files) with
  | mk next outcome =>
    cases drawn : outcome.result with
    | ok image => simp only [drawn, Except.isOk, Except.toBool, and_self]
    | error e => simp only [drawn, Except.isOk, Except.toBool, and_self]

/-! ## Slides -/

theorem exportSlide_of_image?_none {x : Exporter} (unrendered : x.image? = none) (path : Path) :
    x.exportSlide path files = { result := .error .notRendered, files } := by
  rw [exportSlide, renderedImage, unrendered]

theorem exportSlide_of_unreadable {x : Exporter} {image : Path} {cause : FileError}
    (rendered : x.image? = some image) (read : files.readBytes image = .error cause) (path : Path) :
    x.exportSlide path files = { result := .error (.io cause), files } := by
  simp only [exportSlide, renderedImage, rendered, read]

theorem exportSlide_of_unsized {x : Exporter} {image : Path} {data : List UInt8} {e : ExportError}
    (rendered : x.image? = some image) (read : files.readBytes image = .ok data)
    (sized : ImageSize.read data = .error e) (path : Path) :
    x.exportSlide path files = { result := .error e, files } := by
  simp only [exportSlide, renderedImage, rendered, read, sized]

/-- A readable image is handed to the slide writer, whose answer and files are the outcome. -/
theorem exportSlide_of_readable {x : Exporter} {image : Path} {data : List UInt8} {size : ImageSize}
    (rendered : x.image? = some image) (read : files.readBytes image = .ok data)
    (sized : ImageSize.read data = .ok size) (path : Path) :
    let slide : Slide := { title := x.title, picture := picture data size }
    (x.exportSlide path files).result = (x.writer slide path files).1 ∧
      (x.exportSlide path files).files = (x.writer slide path files).2 ∧
      (x.exportSlide path files).shown = [(slide, path)] := by
  intro slide
  simp only [exportSlide, renderedImage, rendered, read, sized]
  cases written : x.writer slide path files with
  | mk result left => cases result <;> exact ⟨rfl, rfl, rfl⟩

theorem imageSize_read_ne_notRendered (data : List UInt8) :
    ImageSize.read data ≠ .error .notRendered := by
  intro refused
  rcases ImageSize.read_cases data with ⟨size, ok⟩ | ⟨reason, other⟩
  · cases ok.symm.trans refused
  · cases other.symm.trans refused

/-- With an image, only the slide writer can claim that there is none. -/
theorem exportSlide_notRendered {x : Exporter} {files : Files} {image path : Path}
    (rendered : x.image? = some image)
    (refused : (x.exportSlide path files).result = .error .notRendered) :
    ∃ slide, (x.exportSlide path files).shown = [(slide, path)] ∧
      (x.writer slide path files).1 = .error .notRendered := by
  cases read : files.readBytes image with
  | error cause =>
    rw [exportSlide_of_unreadable files rendered read] at refused
    cases refused
  | ok data =>
    cases sized : ImageSize.read data with
    | error e =>
      rw [exportSlide_of_unsized files rendered read sized] at refused
      cases refused
      exact absurd sized (imageSize_read_ne_notRendered data)
    | ok size =>
      obtain ⟨result, -, shown⟩ := exportSlide_of_readable files rendered read sized path
      exact ⟨_, shown, result.symm.trans refused⟩

/-! ## Runs -/

/-- The operations of a run with their outcomes. -/
def history (operations : List Operation) : List (Operation × Outcome Answer) :=
  operations.zip (x.run files operations).2.2

theorem run_cons (operation : Operation) (rest : List Operation) :
    x.run files (operation :: rest) =
      (((x.perform files operation).1.run (x.perform files operation).2.files rest).1,
        ((x.perform files operation).1.run (x.perform files operation).2.files rest).2.1,
        (x.perform files operation).2 ::
          ((x.perform files operation).1.run (x.perform files operation).2.files rest).2.2) := rfl

theorem history_cons (operation : Operation) (rest : List Operation) :
    x.history files (operation :: rest) = (operation, (x.perform files operation).2) ::
      (x.perform files operation).1.history (x.perform files operation).2.files rest := rfl

/-- Every operation has its outcome. -/
theorem map_fst_history (operations : List Operation) :
    (x.history files operations).map Prod.fst = operations := by
  induction operations generalizing x files with
  | nil => rfl
  | cons operation rest ih => rw [history_cons, List.map_cons, ih]

theorem answered_image_succeeded (outcome : Outcome Path) :
    (answered .image outcome).succeeded = outcome.result.isOk := by
  obtain ⟨result⟩ := outcome
  cases result <;> rfl

theorem answered_flag_succeeded {outcome : Outcome Bool} {flag : Bool}
    (answer : outcome.result = .ok flag) : (answered .flag outcome).succeeded = flag := by
  rw [Outcome.succeeded, answered, answer]
  rfl

theorem perform_image? (operation : Operation) :
    (x.perform files operation).1.image? =
      match operation.output? with
      | none => x.image?
      | some output =>
        if (x.perform files operation).2.succeeded then some output.raster else none := by
  cases operation with
  | render layout m output =>
    obtain ⟨answer, same, -⟩ := render_eq_tryRender x files layout m output
    change (x.render layout m output files).1.image? =
      if (answered .flag (x.render layout m output files).2).succeeded then some output.raster
      else none
    rw [answered_flag_succeeded answer, same, tryRender_image?]
  | tryRender layout m output =>
    change (x.tryRender layout m output files).1.image? =
      if (answered .image (x.tryRender layout m output files).2).succeeded then some output.raster
      else none
    rw [answered_image_succeeded, tryRender_image?]
  | description m path => rfl
  | slide path => rfl
  | title title => rfl
  | writer writer => rfl
  | outside change => rfl

/-- What a run remembers is its last drawing, or what was there before if it draws nothing. -/
theorem run_image?_iff (operations : List Operation) (image : Path) :
    (x.run files operations).1.image? = some image ↔
      LastDrawn (x.history files operations) image ∨
        x.image? = some image ∧ ∀ step ∈ x.history files operations, step.1.output? = none := by
  induction operations generalizing x files with
  | nil =>
    have quiet : ∀ step ∈ x.history files [], step.1.output? = none :=
      fun step member => absurd member List.not_mem_nil
    constructor
    · exact fun kept => .inr ⟨kept, quiet⟩
    · rintro (drawn | ⟨kept, -⟩)
      · exact absurd drawn (not_lastDrawn_of_quiet quiet)
      · exact kept
  | cons operation rest ih =>
    rw [run_cons, ih, history_cons, lastDrawn_cons, perform_image?, List.forall_mem_cons]
    cases drawn : operation.output? with
    | none => simp only [reduceCtorEq, false_and, exists_false, or_false, true_and]
    | some output =>
      simp only [Option.ite_none_right_eq_some, Option.some.injEq, exists_eq_left',
        reduceCtorEq, false_and, and_false, or_false]

/-- An exporter that begins without an image has one exactly when its last drawing succeeded, and
then that one; only drawings change this. Without an image a slide is refused whatever the files
and the writer are, with one it is not; and both ways to draw leave the same behind. -/
theorem rendered_iff_lastDrawn (files : Files) :
    (∀ (x : Exporter) operations, (x.history files operations).map Prod.fst = operations) ∧
    (∀ (x : Exporter) operations image, x.image? = none →
      ((x.run files operations).1.image? = some image ↔
        LastDrawn (x.history files operations) image)) ∧
    (∀ (x : Exporter) operation, operation.output? = none →
      (x.perform files operation).1.image? = x.image?) ∧
    (∀ (x : Exporter) path, x.image? = none →
      x.exportSlide path files = { result := .error .notRendered, files }) ∧
    (∀ (x : Exporter) image path, x.image? = some image →
      (x.exportSlide path files).result = .error .notRendered →
        ∃ slide, (x.exportSlide path files).shown = [(slide, path)] ∧
          (x.writer slide path files).1 = .error .notRendered) ∧
    ∀ (x : Exporter) layout m output,
      (x.render layout m output files).2.result =
          .ok (x.tryRender layout m output files).2.result.isOk ∧
        (x.render layout m output files).1 = (x.tryRender layout m output files).1 ∧
        (x.render layout m output files).2.files = (x.tryRender layout m output files).2.files ∧
        (x.render layout m output files).2.drawn = (x.tryRender layout m output files).2.drawn ∧
        (x.render layout m output files).2.shown = (x.tryRender layout m output files).2.shown := by
  refine ⟨fun x operations => map_fst_history x files operations,
    fun x operations image fresh => ?_, fun x operation silent => ?_, ?_, ?_, ?_⟩
  · rw [run_image?_iff, fresh]
    simp only [reduceCtorEq, false_and, or_false]
  · rw [perform_image?, silent]
  · exact fun x path unrendered => exportSlide_of_image?_none files unrendered path
  · exact fun x image path rendered refused => exportSlide_notRendered rendered refused
  · exact fun x layout m output => render_eq_tryRender x files layout m output

/-- A slide that fails, here for want of an image header, leaves the drawing before it in place. -/
theorem rendered_iff_lastDrawn_failed_slide :
    let x : Exporter := {}
    let operations : List Operation :=
      [.tryRender (fun _ => pure (.ok [0])) .empty ⟨"er"⟩, .slide ⟨"er.pptx"⟩]
    x.image? = none ∧ (x.run {} operations).1.image? = some ⟨"er.png"⟩ ∧
      LastDrawn (x.history {} operations) ⟨"er.png"⟩ := by
  intro x operations
  have rendered : (x.run {} operations).1.image? = some ⟨"er.png"⟩ := by decide +kernel
  exact ⟨rfl, rendered, ((rendered_iff_lastDrawn {}).2.1 x operations _ rfl).mp rendered⟩

end Exporter

end EntityDiagram
