import EntityDiagram.Proofs.Export.State
import EntityDiagram.Proofs.Files.Store

/-! # What an export leaves behind

A drawing ends in one of five ways, and the files tell which: whatever goes wrong before the image
is written leaves them alone, and the only failure after it is that of an image without a byte. A
description and a slide are complete before the one write that each of them makes.
-/

namespace EntityDiagram.Exporter

/-- The model is accepted, and `data` is the layout of its graph. -/
def Draws (layout : Layout) (m : Model) (data : List UInt8) : Prop :=
  ∃ g, (Graph.ofModel m).value = .ok g ∧ (layout g).value = .ok data

/-- How a drawing of `m` to the file `image` can end: with an answer, and the files it leaves. -/
inductive Ends (layout : Layout) (m : Model) (image : Path) (files : Files) :
    Except ExportError Path → Files → Prop
  | refused {name : String} (unknown : (Graph.ofModel m).value = .error name) :
      Ends layout m image files (.error (.unknownEntity name)) files
  | failed {g : Graph} {e : ExportError} (accepted : (Graph.ofModel m).value = .ok g)
      (undrawn : (layout g).value = .error e) : Ends layout m image files (.error e) files
  | unwritten {data : List UInt8} {cause : FileError} (draws : Draws layout m data)
      (failure : files.write image (.bytes data) = .error cause) :
      Ends layout m image files (.error (.io cause)) files
  | empty {written : Files} (draws : Draws layout m [])
      (success : files.write image (.bytes []) = .ok written) :
      Ends layout m image files (.error (.missingOutput image)) written
  | drawn {data : List UInt8} {written : Files} (draws : Draws layout m data) (nonempty : data ≠ [])
      (success : files.write image (.bytes data) = .ok written) :
      Ends layout m image files (.ok image) written

variable {layout : Layout} {m : Model} {image path : Path} {files left written : Files}
  {result : Except ExportError Path} {data : List UInt8}

/-! ## Drawings -/

theorem Draws.unique {other : List UInt8} (draws : Draws layout m data)
    (others : Draws layout m other) : data = other := by
  obtain ⟨g, accepted, drawn⟩ := draws
  obtain ⟨h, accepted', drawn'⟩ := others
  cases accepted.symm.trans accepted'
  exact Except.ok.inj (drawn.symm.trans drawn')

theorem ends_of_writeImage (layout : Layout) (m : Model) (image : Path) (files : Files) :
    Ends layout m image files ((writeImage layout m image files).result.map fun _ => image)
      (writeImage layout m image files).files := by
  simp only [writeImage]
  cases accepted : (Graph.ofModel m).value with
  | error name => exact .refused accepted
  | ok g =>
    simp only
    cases drawn : (layout g).value with
    | error e => exact .failed accepted drawn
    | ok data =>
      simp only
      cases attempt : files.write image (.bytes data) with
      | error cause => exact .unwritten ⟨g, accepted, drawn⟩ attempt
      | ok written =>
        obtain ⟨access, looked⟩ := (Files.writtenAt_of_write attempt).holds.stands
        have size := Files.size?_of_look looked
        simp only [size, Option.any_some, Content.toBytes, decide_eq_true_eq]
        split
        · next some => exact .drawn ⟨g, accepted, drawn⟩ (List.ne_nil_of_length_pos some) attempt
        · next none =>
          obtain rfl := List.eq_nil_of_length_eq_zero (Nat.eq_zero_of_not_pos none)
          exact .empty ⟨g, accepted, drawn⟩ attempt

theorem ends_of_tryRender (x : Exporter) (layout : Layout) (m : Model) (output : Path)
    (files : Files) :
    Ends layout m output.raster files (x.tryRender layout m output files).2.result
      (x.tryRender layout m output files).2.files := by
  have ends := ends_of_writeImage layout m output.raster files
  rw [tryRender]
  cases drawn : (writeImage layout m output.raster files).result with
  | ok done => rw [drawn] at ends; exact ends
  | error e => rw [drawn] at ends; exact ends

/-- Once the layout is there and can be written, it is, and only its size is left to judge. -/
theorem Ends.of_written (ends : Ends layout m image files result left)
    (draws : Draws layout m data) (success : files.write image (.bytes data) = .ok written) :
    left = written ∧
      result = if data = [] then .error (.missingOutput image) else .ok image := by
  cases ends with
  | refused unknown =>
    obtain ⟨g, accepted, -⟩ := draws
    cases unknown.symm.trans accepted
  | failed accepted undrawn =>
    obtain ⟨g, accepted', drawn⟩ := draws
    cases accepted.symm.trans accepted'
    cases undrawn.symm.trans drawn
  | unwritten others failure =>
    obtain rfl := draws.unique others
    cases failure.symm.trans success
  | empty others success' =>
    obtain rfl := draws.unique others
    exact ⟨Except.ok.inj (success'.symm.trans success), (if_pos rfl).symm⟩
  | drawn others nonempty success' =>
    obtain rfl := draws.unique others
    exact ⟨Except.ok.inj (success'.symm.trans success), (if_neg nonempty).symm⟩

/-- A drawing succeeds exactly if there is something to write and it can be written. -/
theorem Ends.ok_iff (ends : Ends layout m image files result left) :
    result = .ok path ↔ path = image ∧ ∃ data, Draws layout m data ∧ data ≠ [] ∧
      ∃ written, files.write image (.bytes data) = .ok written := by
  constructor
  · rintro rfl
    cases ends with
    | drawn draws nonempty success => exact ⟨rfl, _, draws, nonempty, _, success⟩
  · rintro ⟨rfl, data, draws, nonempty, written, success⟩
    rw [(ends.of_written draws success).2, if_neg nonempty]

/-- What was drawn is in the image file, and nothing else has changed. -/
theorem Ends.writtenAt_of_ok (ends : Ends layout m image files (.ok path) left) :
    ∃ data, Draws layout m data ∧ data ≠ [] ∧ files.WrittenAt path (.bytes data) left := by
  cases ends with
  | drawn draws nonempty success =>
    exact ⟨_, draws, nonempty, Files.writtenAt_of_write success⟩

/-- A failure has changed nothing, unless there was nothing to put into the image file. -/
theorem Ends.files_of_error {e : ExportError} (ends : Ends layout m image files (.error e) left) :
    left = files ∨ Draws layout m [] ∧ (∃ written, files.write image (.bytes []) = .ok written) ∧
      e = .missingOutput image ∧ files.WrittenAt image (.bytes []) left := by
  cases ends with
  | refused => exact .inl rfl
  | failed => exact .inl rfl
  | unwritten => exact .inl rfl
  | empty draws success =>
    exact .inr ⟨draws, ⟨_, success⟩, rfl, Files.writtenAt_of_write success⟩

/-- Whatever comes of a drawing, the image file is the only one that it writes. -/
theorem Ends.touched (ends : Ends layout m image files result left) : files.Touched image left := by
  cases ends with
  | refused => exact .inl rfl
  | failed => exact .inl rfl
  | unwritten => exact .inl rfl
  | empty draws success => exact .inr ⟨_, success⟩
  | drawn draws nonempty success => exact .inr ⟨_, success⟩

/-- A model that is refused gets no layout, so none can make a difference. -/
theorem tryRender_of_refused {name : String} (x : Exporter)
    (unknown : (Graph.ofModel m).value = .error name) (layout other : Layout) (output : Path)
    (files : Files) :
    (x.tryRender layout m output files).2.drawn = [] ∧
      x.tryRender layout m output files = x.tryRender other m output files := by
  simp only [tryRender, writeImage, unknown, and_self]

/-! ## Descriptions and slides -/

/-- A success leaves files with `done`, a failure the files as they were. -/
def AllOrNothing (files : Files) (result : Except ExportError Unit) (left : Files)
    (done : Files → Prop) : Prop :=
  match result with
  | .ok () => done left
  | .error _ => left = files

theorem AllOrNothing.mono {result : Except ExportError Unit} {done other : Files → Prop}
    (effect : AllOrNothing files result left done) (weaker : done left → other left) :
    AllOrNothing files result left other := by
  cases result with
  | ok answer => exact weaker effect
  | error e => exact effect

theorem exportDescription_effect (m : Model) (path : Path) (files : Files) :
    AllOrNothing files (exportDescription m path files).result (exportDescription m path files).files
      (files.WrittenAt path (.bytes (Text.encode (Description.text m)))) := by
  rw [exportDescription]
  cases attempt : files.write path (.bytes (Text.encode (Description.text m))) with
  | error cause => exact rfl
  | ok written => exact Files.writtenAt_of_write attempt

/-- A slide is refused with the files as they were, or the slide writer decides. -/
theorem exportSlide_cases (x : Exporter) (path : Path) (files : Files) :
    (∃ e, (x.exportSlide path files).result = .error e ∧ (x.exportSlide path files).files = files) ∨
    ∃ slide, (x.exportSlide path files).shown = [(slide, path)] ∧
      (x.exportSlide path files).result = (x.writer slide path files).1 ∧
      (x.exportSlide path files).files = (x.writer slide path files).2 := by
  cases rendered : x.image? with
  | none =>
    rw [exportSlide_of_image?_none files rendered]
    exact .inl ⟨_, rfl, rfl⟩
  | some image =>
    cases read : files.readBytes image with
    | error cause =>
      rw [exportSlide_of_unreadable files rendered read]
      exact .inl ⟨_, rfl, rfl⟩
    | ok data =>
      cases sized : ImageSize.read data with
      | error e =>
        rw [exportSlide_of_unsized files rendered read sized]
        exact .inl ⟨_, rfl, rfl⟩
      | ok size =>
        obtain ⟨result, left, shown⟩ := exportSlide_of_readable files rendered read sized path
        exact .inr ⟨_, shown, result, left⟩

theorem assembled_effect (assemble : Slide → Except ExportError Content) (slide : Slide)
    (path : Path) (files : Files) :
    AllOrNothing files (SlideWriter.assembled assemble slide path files).1
      (SlideWriter.assembled assemble slide path files).2
      fun left => ∃ content, assemble slide = .ok content ∧ files.WrittenAt path content left := by
  rw [SlideWriter.assembled]
  cases assemble slide with
  | error e => exact rfl
  | ok content =>
    simp only
    cases attempt : files.write path content with
    | error cause => exact rfl
    | ok written => exact ⟨content, rfl, Files.writtenAt_of_write attempt⟩

theorem exportSlide_effect {x : Exporter} {assemble : Slide → Except ExportError Content}
    (writer : x.writer = .assembled assemble) (path : Path) (files : Files) :
    AllOrNothing files (x.exportSlide path files).result (x.exportSlide path files).files
      fun left => ∃ slide content, (x.exportSlide path files).shown = [(slide, path)] ∧
        assemble slide = .ok content ∧ files.WrittenAt path content left := by
  rcases exportSlide_cases x path files with ⟨e, refused, kept⟩ | ⟨slide, shown, result, left⟩
  · rw [refused, kept]
    exact rfl
  · have effect := assembled_effect assemble slide path files
    rw [result, left, shown, writer]
    refine effect.mono ?_
    rintro ⟨content, assembled, written⟩
    exact ⟨slide, content, rfl, assembled, written⟩

theorem exportDescription_touched (m : Model) (path : Path) (files : Files) :
    files.Touched path (exportDescription m path files).files := by
  rw [exportDescription]
  cases attempt : files.write path (.bytes (Text.encode (Description.text m))) with
  | error cause => exact .inl rfl
  | ok written => exact .inr ⟨_, attempt⟩

theorem exportSlide_touched {x : Exporter} (assembled : ∃ assemble, x.writer = .assembled assemble)
    (path : Path) (files : Files) : files.Touched path (x.exportSlide path files).files := by
  obtain ⟨assemble, writer⟩ := assembled
  rcases exportSlide_cases x path files with ⟨e, -, kept⟩ | ⟨slide, -, -, left⟩
  · exact .inl kept
  · rw [left, writer, SlideWriter.assembled]
    cases assemble slide with
    | error e => exact .inl rfl
    | ok content =>
      simp only
      cases attempt : files.write path content with
      | error cause => exact .inl rfl
      | ok written => exact .inr ⟨content, attempt⟩

/-- A drawing succeeds exactly if the model is accepted and its layout is not empty and can be
written, and then the image file holds the layout and all else is as before. A failure leaves the
files as they were, but for the empty image file of an empty layout; no layout is made for a model
that is refused. A description and a slide of which the content is put together first, as that of a
deck is, change their target alone, and nothing when they fail. -/
theorem effects_confined (files : Files) :
    (∀ (x : Exporter) layout m output image,
      (x.tryRender layout m output files).2.result = .ok image ↔
        image = output.raster ∧ ∃ data, Draws layout m data ∧ data ≠ [] ∧
          ∃ written, files.write output.raster (.bytes data) = .ok written) ∧
    (∀ (x : Exporter) layout m output image,
      (x.tryRender layout m output files).2.result = .ok image →
        ∃ data, Draws layout m data ∧ data ≠ [] ∧
          files.WrittenAt image (.bytes data) (x.tryRender layout m output files).2.files) ∧
    (∀ (x : Exporter) layout m output e,
      (x.tryRender layout m output files).2.result = .error e →
        (x.tryRender layout m output files).2.files = files ∨
        Draws layout m [] ∧ (∃ written, files.write output.raster (.bytes []) = .ok written) ∧
          e = .missingOutput output.raster ∧
          files.WrittenAt output.raster (.bytes []) (x.tryRender layout m output files).2.files) ∧
    (∀ (x : Exporter) layout m output written, Draws layout m [] →
      files.write output.raster (.bytes []) = .ok written →
        (x.tryRender layout m output files).2.result = .error (.missingOutput output.raster) ∧
        (x.tryRender layout m output files).2.files = written) ∧
    (∀ (x : Exporter) m output name, (Graph.ofModel m).value = .error name →
      ∀ layout other, (x.tryRender layout m output files).2.drawn = [] ∧
        x.tryRender layout m output files = x.tryRender other m output files) ∧
    (∀ m path, AllOrNothing files (exportDescription m path files).result
      (exportDescription m path files).files
      (files.WrittenAt path (.bytes (Text.encode (Description.text m))))) ∧
    ∀ (x : Exporter) assemble path, x.writer = .assembled assemble →
      AllOrNothing files (x.exportSlide path files).result (x.exportSlide path files).files
        fun left => ∃ slide content, (x.exportSlide path files).shown = [(slide, path)] ∧
          assemble slide = .ok content ∧ files.WrittenAt path content left := by
  refine ⟨fun x layout m output image => ?_, fun x layout m output image drawn => ?_,
    fun x layout m output e failure => ?_, fun x layout m output written draws success => ?_,
    fun x m output name unknown layout other => ?_, fun m path => ?_,
    fun x assemble path writer => ?_⟩
  · exact (ends_of_tryRender x layout m output files).ok_iff
  · have ends := ends_of_tryRender x layout m output files
    rw [drawn] at ends
    exact ends.writtenAt_of_ok
  · have ends := ends_of_tryRender x layout m output files
    rw [failure] at ends
    exact ends.files_of_error
  · obtain ⟨left, result⟩ := (ends_of_tryRender x layout m output files).of_written draws success
    exact ⟨result, left⟩
  · exact tryRender_of_refused x unknown layout other output files
  · exact exportDescription_effect m path files
  · exact exportSlide_effect writer path files

/-- One byte is drawn over an older image, and a layout without a byte takes the image away. A slide
of the older image, which is none, changes nothing. -/
theorem effects_confined_older_image :
    let files : Files := { nodes := [(["er.png"], .file (.bytes [1, 2]))] }
    let x : Exporter := { image? := some ⟨"er.png"⟩ }
    let drawn := (x.tryRender (fun _ => pure (.ok [7])) .empty ⟨"er"⟩ files).2
    let lost := (x.tryRender (fun _ => pure (.ok [])) .empty ⟨"er"⟩ files).2
    (drawn.result = .ok ⟨"er.png"⟩ ∧ files.WrittenAt ⟨"er.png"⟩ (.bytes [7]) drawn.files) ∧
      (lost.result = .error (.missingOutput ⟨"er.png"⟩) ∧
        files.WrittenAt ⟨"er.png"⟩ (.bytes []) lost.files) ∧
      (x.exportSlide ⟨"er.pptx"⟩ files).files = files := by
  intro files x drawn lost
  have raster : (⟨"er"⟩ : Path).raster = ⟨"er.png"⟩ := by decide
  have writes : ∀ data, ∃ written,
      files.write (⟨"er"⟩ : Path).raster (.bytes data) = .ok written := by
    intro data
    rw [raster]
    exact ⟨_, rfl⟩
  have draws : ∀ data, Draws (fun _ => pure (.ok data)) .empty data := fun data => ⟨_, rfl, rfl⟩
  obtain ⟨succeeds, leaves, -, loses, -, -, slides⟩ := effects_confined files
  refine ⟨?_, ?_, ?_⟩
  · have result : drawn.result = .ok ⟨"er.png"⟩ :=
      (succeeds x _ .empty ⟨"er"⟩ _).mpr ⟨raster.symm, [7], draws [7], by decide, writes [7]⟩
    obtain ⟨data, others, -, written⟩ := leaves x _ .empty ⟨"er"⟩ _ result
    obtain rfl := others.unique (draws [7])
    exact ⟨result, written⟩
  · obtain ⟨written, success⟩ := writes []
    obtain ⟨result, left⟩ := loses x _ .empty ⟨"er"⟩ written (draws []) success
    have kept : lost.files = written := left
    rw [raster] at result success
    refine ⟨result, ?_⟩
    rw [kept]
    exact Files.writtenAt_of_write success
  · exact slides x (fun slide => .ok (.archive (Deck.parts slide))) ⟨"er.pptx"⟩ rfl

end EntityDiagram.Exporter
