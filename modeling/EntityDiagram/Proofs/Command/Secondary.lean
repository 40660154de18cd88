import EntityDiagram.Command.Run
import EntityDiagram.Proofs.Export.Slides
import EntityDiagram.Proofs.Files.Path

/-! # What further exports can change

A run has its result once the image is drawn, and up to there it does not look at what else is asked
for: neither what it asks the chat service nor what it has drawn depends on it. The description and
the slide are at most one write each, to files that stand next to the image and never in its place.
So the image stays as it was drawn, and the slide is made of it whether or not a description was
written in between.
-/

namespace EntityDiagram.Command

variable {s : Setting} {a : Arguments} {c : Config} {text : String} {sent : Sent (Logged Model)}
  {m : Model} {x : Exporter} {output image : Path} {files : Files} {location : Location}
  {node : FileNode} {data : List UInt8}

/-! ## Next to the image -/

theorem description_apart (led : files.locate output.raster = .ok location) :
    files.locate (output.raster.withExtension "dot") ≠ .ok location :=
  Files.locate_withExtension_ne (by decide) (by decide) (by decide) led

theorem slide_apart (led : files.locate output.raster = .ok location) :
    files.locate (output.raster.withExtension "pptx") ≠ .ok location :=
  Files.locate_withExtension_ne (by decide) (by decide) (by decide) led

theorem secondary_same (format : String) (path : Path) (outcome : Outcome Unit) :
    (secondary format path outcome).files = outcome.files ∧
      (secondary format path outcome).shown = outcome.shown := by
  rw [secondary]
  cases outcome.result <;> exact ⟨rfl, rfl⟩

theorem writeDescription_touched (a : Arguments) (m : Model) (image : Path) (files : Files) :
    files.Touched (image.withExtension "dot") (writeDescription a m image files).files := by
  rw [writeDescription]
  split
  · rw [(secondary_same _ _ _).1]
    exact Exporter.exportDescription_touched m _ files
  · exact .inl rfl

theorem writeSlide_touched (deck : x.writer = .deck) (a : Arguments) (image : Path)
    (files : Files) :
    files.Touched (image.withExtension "pptx") (writeSlide a x image files).files := by
  rw [writeSlide]
  split
  · rw [(secondary_same _ _ _).1]
    exact Exporter.exportSlide_touched ⟨_, deck⟩ _ files
  · exact .inl rfl

/-- The slides that are handed to the slide writer if `data` is the image. -/
def slides (a : Arguments) (title : String) (image : Path) (data : List UInt8) :
    List (Slide × Path) :=
  match a.slide, ImageSize.read data with
  | true, .ok size =>
    [({ title, picture := Exporter.picture data size }, image.withExtension "pptx")]
  | _, _ => []

/-- They follow from what is read at the image. -/
theorem writeSlide_shown (a : Arguments) (rendered : x.image? = some image) (files : Files) :
    (writeSlide a x image files).shown =
      match files.readBytes image with
      | .ok data => slides a x.title image data
      | .error _ => [] := by
  rw [writeSlide]
  cases asked : a.slide with
  | false =>
    cases files.readBytes image with
    | error cause => rfl
    | ok data => simp only [slides, asked]; rfl
  | true =>
    rw [if_pos rfl, (secondary_same _ _ _).2]
    cases read : files.readBytes image with
    | error cause => rw [Exporter.exportSlide_of_unreadable files rendered read]
    | ok data =>
      cases sized : ImageSize.read data with
      | error e =>
        rw [Exporter.exportSlide_of_unsized files rendered read sized]
        simp only [slides, asked, sized]
      | ok size =>
        simp only [slides, asked, sized]
        exact (Exporter.exportSlide_of_readable files rendered read sized _).2.2

/-! ## After the drawing -/

/-- Everything that was asked for next to the image. -/
def further (a : Arguments) (x : Exporter) (m : Model) (image : Path) (files : Files) :
    Outcome Unit :=
  writeSlide a x image (writeDescription a m image files).files

theorem described_look (a : Arguments) (m : Model) (looked : files.look output.raster = .ok node) :
    (writeDescription a m output.raster files).files.look output.raster = .ok node :=
  (writeDescription_touched a m output.raster files).look_of_look (fun _ => description_apart) looked

theorem further_look (deck : x.writer = .deck) (a : Arguments) (m : Model)
    (looked : files.look output.raster = .ok node) :
    (further a x m output.raster files).files.look output.raster = .ok node :=
  (writeSlide_touched deck a _ _).look_of_look (fun _ => slide_apart) (described_look a m looked)

theorem further_node? (deck : x.writer = .deck) (a : Arguments) (m : Model)
    (undescribed : a.dot = true → files.locate (image.withExtension "dot") ≠ .ok location)
    (unshown : a.slide = true → files.locate (image.withExtension "pptx") ≠ .ok location) :
    (further a x m image files).files.node? location = files.node? location := by
  have touched := writeDescription_touched a m image files
  have described : (writeDescription a m image files).files.node? location =
      files.node? location := by
    cases dot : a.dot with
    | true => exact touched.node? (undescribed dot)
    | false => simp only [writeDescription, dot, Bool.false_eq_true, if_false]
  have shown : (further a x m image files).files.node? location =
      (writeDescription a m image files).files.node? location := by
    cases slide : a.slide with
    | true =>
      refine (writeSlide_touched deck a image _).node? ?_
      exact mt (touched.locate_eq_ok_iff _).mp (unshown slide)
    | false => simp only [further, writeSlide, slide, Bool.false_eq_true, if_false]
  exact shown.trans described

theorem further_shown (a : Arguments) (m : Model) (rendered : x.image? = some output.raster)
    (looked : files.look output.raster = .ok node) :
    (further a x m output.raster files).shown =
      match files.readBytes output.raster with
      | .ok data => slides a x.title output.raster data
      | .error _ => [] := by
  rw [further, writeSlide_shown a rendered,
    Files.readBytes_of_look looked (described_look a m looked)]

/-! ## The result -/

/-- All is there that a drawing needs: the configuration, the text of the input, a client for the
chat service unless the text is structured, and with them a model. -/
structure Ready (s : Setting) (a : Arguments) (c : Config) (text : String)
    (sent : Sent (Logged Model)) : Prop where
  loaded : (Config.load s.files.view s.platform? (a.config?.map Path.mk)).value = .ok c
  read : s.files.readText ⟨a.input⟩ = .ok text
  built : a.structured = false → ∃ client, s.connect c.service.limits = .ok client
  gained : readModel s c a.structured text = .ok sent

/-- A model is there as soon as a client is that is needed. -/
theorem exists_readModel_iff {structured : Bool} :
    (∃ sent, readModel s c structured text = .ok sent) ↔
      (structured = false → ∃ client, s.connect c.service.limits = .ok client) := by
  rw [readModel]
  cases structured with
  | true => exact iff_of_true ⟨_, rfl⟩ nofun
  | false =>
    cases connected : s.connect c.service.limits with
    | error reason => exact iff_of_false nofun fun built => nomatch built rfl
    | ok client => exact iff_of_true ⟨_, rfl⟩ fun _ => ⟨client, rfl⟩

theorem Ready.asked (ready : Ready s a c text sent) (dot slide : Bool) :
    Ready s { a with dot, slide } c text sent :=
  ⟨ready.loaded, ready.read, ready.built, ready.gained⟩

theorem Ready.unique {other : Config} {others : String} {again : Sent (Logged Model)}
    (ready : Ready s a c text sent) (second : Ready s a other others again) :
    other = c ∧ others = text ∧ again = sent := by
  obtain rfl := Except.ok.inj (second.loaded.symm.trans ready.loaded)
  obtain rfl := Except.ok.inj (second.read.symm.trans ready.read)
  exact ⟨rfl, rfl, Except.ok.inj (second.gained.symm.trans ready.gained)⟩

/-- The drawing of a run. -/
def drawing (s : Setting) (a : Arguments) (c : Config) (m : Model) : Exporter × Outcome Path :=
  ({ title := c.title } : Exporter).tryRender s.tool.layout m ⟨a.output⟩ s.files

theorem drawing_touched (s : Setting) (a : Arguments) (c : Config) (m : Model) :
    s.files.Touched (⟨a.output⟩ : Path).raster (drawing s a c m).2.files :=
  (Exporter.ends_of_tryRender _ _ _ _ _).touched

theorem drawing_of_ok (drawn : (drawing s a c m).2.result = .ok image) :
    image = (⟨a.output⟩ : Path).raster ∧ (drawing s a c m).1.image? = some image ∧
      (drawing s a c m).1.writer = .deck ∧
      ∃ node, (drawing s a c m).2.files.look image = .ok node := by
  obtain ⟨named, rendered, data, -, held⟩ := Exporter.tryRender_of_ok drawn
  obtain ⟨access, looked⟩ := held.stands
  exact ⟨named, rendered, Exporter.tryRender_writer _ _ _ _ _, _, looked⟩

/-- What a run comes to, but for its log. -/
structure ComesTo (finish : Finish) (result : Except Failure Unit) (files : Files)
    (shown : List (Slide × Path)) (drawn : List Graph) (posts : List Post) : Prop where
  result : finish.result = result
  files : finish.files = files
  shown : finish.shown = shown
  drawn : finish.drawn = drawn
  posts : finish.posts = posts

/-- How the runs go that differ in what else they are asked for. -/
inductive Course (s : Setting) (a : Arguments) : Prop
  | stopped (e : Failure) (left : Files) (graphs : List Graph) (posts : List Post)
      (touched : s.files.Touched (⟨a.output⟩ : Path).raster left)
      (never : ∀ c text sent image, Ready s a c text sent →
        (drawing s a c sent.value.value).2.result ≠ .ok image)
      (stops : ∀ dot slide, ComesTo (run s { a with dot, slide }) (.error e) left [] graphs posts)
  | drawn (c : Config) (text : String) (sent : Sent (Logged Model)) (image : Path)
      (ready : Ready s a c text sent)
      (drawn : (drawing s a c sent.value.value).2.result = .ok image)
      (goes : ∀ dot slide,
        let primary := drawing s a c sent.value.value
        let rest := further { a with dot, slide } primary.1 sent.value.value image primary.2.files
        ComesTo (run s { a with dot, slide }) (.ok ()) rest.files rest.shown primary.2.drawn
          sent.posts)

theorem exportAll_undrawn {e : ExportError} (failed : (drawing s a c m).2.result = .error e) :
    ComesTo (exportAll s a c m) (.error (.exporter e)) (drawing s a c m).2.files []
      (drawing s a c m).2.drawn [] := by
  cases drawing : drawing s a c m with
  | mk next outcome =>
    simp only [drawing] at failed
    rw [Command.drawing] at drawing
    simp only [exportAll, drawing, failed]
    exact ⟨rfl, rfl, rfl, rfl, rfl⟩

theorem exportAll_drawn (drawn : (drawing s a c m).2.result = .ok image) :
    let rest := further a (drawing s a c m).1 m image (drawing s a c m).2.files
    ComesTo (exportAll s a c m) (.ok ()) rest.files rest.shown (drawing s a c m).2.drawn [] := by
  intro rest
  cases drawing : drawing s a c m with
  | mk next outcome =>
    simp only [rest, drawing] at drawn ⊢
    rw [Command.drawing] at drawing
    simp only [exportAll, drawing, drawn]
    exact ⟨rfl, rfl, rfl, rfl, rfl⟩

/-- The requests of a run are those that were made for its model. -/
theorem run_of_ready {result : Except Failure Unit} {shown : List (Slide × Path)}
    {drawn : List Graph} (ready : Ready s a c text sent)
    (exported : ComesTo (exportAll s a c sent.value.value) result files shown drawn []) :
    ComesTo (run s a) result files shown drawn sent.posts := by
  simp only [run, ready.loaded, ready.read, ready.gained]
  exact ⟨exported.result, exported.files, exported.shown, exported.drawn, rfl⟩

theorem course (s : Setting) (a : Arguments) : Course s a := by
  cases loaded : (Config.load s.files.view s.platform? (a.config?.map Path.mk)).value with
  | error e =>
    refine .stopped (.ofConfig e) s.files [] [] (.inl rfl) (fun c text sent image ready => ?_)
      fun dot slide => ?_
    · cases loaded.symm.trans ready.loaded
    · simp only [run, loaded]
      exact ⟨rfl, rfl, rfl, rfl, rfl⟩
  | ok c =>
    cases read : s.files.readText ⟨a.input⟩ with
    | error cause =>
      refine .stopped (.io cause) s.files [] [] (.inl rfl) (fun c text sent image ready => ?_)
        fun dot slide => ?_
      · cases read.symm.trans ready.read
      · simp only [run, loaded, read]
        exact ⟨rfl, rfl, rfl, rfl, rfl⟩
    | ok text =>
      cases gained : readModel s c a.structured text with
      | error e =>
        refine .stopped (.generator e) s.files [] [] (.inl rfl)
          (fun other others sent image ready => ?_) fun dot slide => ?_
        · cases loaded.symm.trans ready.loaded
          cases read.symm.trans ready.read
          cases gained.symm.trans ready.gained
        · simp only [run, loaded, read, gained]
          exact ⟨rfl, rfl, rfl, rfl, rfl⟩
      | ok sent =>
        have ready : Ready s a c text sent :=
          ⟨loaded, read, exists_readModel_iff.mp ⟨sent, gained⟩, gained⟩
        cases result : (drawing s a c sent.value.value).2.result with
        | error e =>
          refine .stopped (.exporter e) _ (drawing s a c sent.value.value).2.drawn sent.posts
            (drawing_touched s a c sent.value.value) (fun other others again image second => ?_)
            fun dot slide => ?_
          · obtain ⟨rfl, rfl, rfl⟩ := ready.unique second
            rw [result]
            exact nofun
          · exact run_of_ready (ready.asked dot slide) (exportAll_undrawn result)
        | ok image =>
          refine .drawn c text sent image ready result fun dot slide => ?_
          have asked := ready.asked dot slide
          exact run_of_ready asked (exportAll_drawn (a := { a with dot, slide }) result)

/-! ## Runs side by side -/

theorem run_ok_iff (s : Setting) (a : Arguments) :
    (run s a).result = .ok () ↔ ∃ c text sent image, Ready s a c text sent ∧
      (drawing s a c sent.value.value).2.result = .ok image := by
  cases course s a with
  | stopped e left graphs posts touched never stops =>
    have result : (run s a).result = .error e := (stops a.dot a.slide).result
    rw [result]
    refine iff_of_false nofun ?_
    rintro ⟨c, text, sent, image, ready, drawn⟩
    exact never c text sent image ready drawn
  | drawn c text sent image ready drawn goes =>
    exact iff_of_true (goes a.dot a.slide).result ⟨c, text, sent, image, ready, drawn⟩

/-- The same result, the same requests, the same graphs laid out, and the same at the image. -/
structure SamePrimary (image : Path) (first second : Finish) : Prop where
  result : second.result = first.result
  look : second.files.look image = first.files.look image
  read : second.files.read image = first.files.read image
  posts : second.posts = first.posts
  drawn : second.drawn = first.drawn

/-- Nothing of this depends on what else is asked for. -/
theorem run_samePrimary (s : Setting) (a : Arguments) (dot slide : Bool) :
    SamePrimary (⟨a.output⟩ : Path).raster (run s a) (run s { a with dot, slide }) := by
  cases course s a with
  | stopped e left graphs posts touched never stops =>
    have own : ComesTo (run s a) (.error e) left [] graphs posts := stops a.dot a.slide
    have other := stops dot slide
    have files : (run s { a with dot, slide }).files = (run s a).files :=
      other.files.trans own.files.symm
    exact ⟨other.result.trans own.result.symm, by rw [files], by rw [files],
      other.posts.trans own.posts.symm, other.drawn.trans own.drawn.symm⟩
  | drawn c text sent image ready drawn goes =>
    obtain ⟨rfl, -, deck, node, looked⟩ := drawing_of_ok drawn
    have own : ComesTo (run s a) _ _ _ _ _ := goes a.dot a.slide
    have other := goes dot slide
    have first : (run s a).files.look (⟨a.output⟩ : Path).raster = .ok node := by
      rw [own.files]
      exact further_look deck _ _ looked
    have second :
        (run s { a with dot, slide }).files.look (⟨a.output⟩ : Path).raster = .ok node := by
      rw [other.files]
      exact further_look deck _ _ looked
    exact ⟨other.result.trans own.result.symm, second.trans first.symm,
      Files.read_of_look first second, other.posts.trans own.posts.symm,
      other.drawn.trans own.drawn.symm⟩

/-- The slide is made of the image as the run leaves it, and of nothing that was written later. -/
theorem run_shown (s : Setting) (a : Arguments) :
    (∀ dot, (run s { a with dot }).shown = (run s a).shown) ∧
      ∀ slide path, (slide, path) ∈ (run s a).shown →
        path = (⟨a.output⟩ : Path).raster.withExtension "pptx" ∧
          (run s a).files.readBytes (⟨a.output⟩ : Path).raster = .ok slide.picture.data := by
  cases course s a with
  | stopped e left graphs posts touched never stops =>
    have own : (run s a).shown = [] := (stops a.dot a.slide).shown
    rw [own]
    exact ⟨fun dot => (stops dot a.slide).shown, fun slide path member => nomatch member⟩
  | drawn c text sent image ready drawn goes =>
    obtain ⟨rfl, rendered, deck, node, looked⟩ := drawing_of_ok drawn
    have shown : ∀ dot, (run s { a with dot }).shown = _ := fun dot =>
      (goes dot a.slide).shown.trans (further_shown _ _ rendered looked)
    have own : (run s a).shown = _ := shown a.dot
    have left : (run s a).files = _ := (goes a.dot a.slide).files
    have kept := further_look deck a sent.value.value looked
    refine ⟨fun dot => (shown dot).trans own.symm, fun slide path member => ?_⟩
    rw [own] at member
    cases held : (drawing s a c sent.value.value).2.files.readBytes (⟨a.output⟩ : Path).raster with
    | error cause =>
      rw [held] at member
      cases member
    | ok data =>
      simp only [held, slides] at member
      split at member
      · obtain ⟨made, named⟩ := Prod.mk.inj (List.mem_singleton.mp member)
        refine ⟨named, ?_⟩
        rw [made, left]
        exact (Files.readBytes_of_look looked kept).trans held
      · cases member

/-- A run that fails has not come to the other exports. -/
theorem touched_of_error {e : Failure} (failed : (run s a).result = .error e) :
    s.files.Touched (⟨a.output⟩ : Path).raster (run s a).files := by
  cases course s a with
  | stopped other left graphs posts touched never stops =>
    have files : (run s a).files = left := (stops a.dot a.slide).files
    rwa [files]
  | drawn c text sent image ready drawn goes =>
    have result : (run s a).result = .ok () := (goes a.dot a.slide).result
    cases result.symm.trans failed

theorem run_node? (s : Setting) (a : Arguments)
    (apart : s.files.locate (⟨a.output⟩ : Path).raster ≠ .ok location)
    (undescribed : a.dot = true →
      s.files.locate ((⟨a.output⟩ : Path).raster.withExtension "dot") ≠ .ok location)
    (unshown : a.slide = true →
      s.files.locate ((⟨a.output⟩ : Path).raster.withExtension "pptx") ≠ .ok location) :
    (run s a).files.node? location = s.files.node? location := by
  cases course s a with
  | stopped e left graphs posts touched never stops =>
    have files : (run s a).files = left := (stops a.dot a.slide).files
    rw [files]
    exact touched.node? apart
  | drawn c text sent image ready drawn goes =>
    obtain ⟨rfl, -, deck, -⟩ := drawing_of_ok drawn
    have files : (run s a).files = _ := (goes a.dot a.slide).files
    have touched := drawing_touched s a c sent.value.value
    rw [files]
    refine (further_node? deck a _ (fun asked => ?_) fun asked => ?_).trans (touched.node? apart)
    · exact mt (touched.locate_eq_ok_iff _).mp (undescribed asked)
    · exact mt (touched.locate_eq_ok_iff _).mp (unshown asked)

/-- With whatever else a run is asked for, it has the same result, asks the chat service for the
same, has the same laid out and leaves the same at the image. It succeeds exactly if the
configuration is loaded, the input is read, a client that is needed is built and the image is drawn.
A run that fails changes nothing but the image, and so neither the description nor the slide. What
is handed to the slide writer is the image as the run leaves it, with or without a description; and
no place changes but that of the image and those of the exports that were asked for. -/
theorem further_exports_inert (s : Setting) (a : Arguments) :
    let image := (⟨a.output⟩ : Path).raster
    let description := image.withExtension "dot"
    let deck := image.withExtension "pptx"
    (∀ dot slide, SamePrimary image (run s a) (run s { a with dot, slide })) ∧
    ((run s a).result = .ok () ↔ ∃ c text sent path, Ready s a c text sent ∧
      (drawing s a c sent.value.value).2.result = .ok path) ∧
    (∀ e, (run s a).result = .error e →
      (∀ location, s.files.locate image ≠ .ok location →
        (run s a).files.node? location = s.files.node? location) ∧
      ∀ path ∈ [description, deck],
        ((run s a).files.look path).toOption = (s.files.look path).toOption) ∧
    (∀ dot, (run s { a with dot }).shown = (run s a).shown) ∧
    (∀ slide path, (slide, path) ∈ (run s a).shown →
      path = deck ∧ (run s a).files.readBytes image = .ok slide.picture.data) ∧
    ∀ location, s.files.locate image ≠ .ok location →
      (a.dot = true → s.files.locate description ≠ .ok location) →
      (a.slide = true → s.files.locate deck ≠ .ok location) →
      (run s a).files.node? location = s.files.node? location := by
  intro image description deck
  obtain ⟨shown, made⟩ := run_shown s a
  refine ⟨run_samePrimary s a, run_ok_iff s a, fun e failed => ⟨fun location apart => ?_, ?_⟩,
    shown, made, fun location => run_node? s a⟩
  · exact (touched_of_error failed).node? apart
  · intro path member
    refine (touched_of_error failed).look fun place led meets => ?_
    simp only [List.mem_cons, List.not_mem_nil, or_false] at member
    rcases member with first | second
    · rw [first] at led
      exact description_apart meets led
    · rw [second] at led
      exact slide_apart meets led

/-- A directory stands where the description should go and a file that may not be written where the
deck goes, and what the tool prints depends on its input. The run that is asked for both comes to
the same as the one that is asked for neither, and the text stays as it was. -/
theorem further_exports_inert_blocked :
    let header : List UInt8 := ImageSize.signature ++ [0, 0, 0, 13] ++ ImageSize.headerName ++
      [0, 0, 0, 2, 0, 0, 0, 1]
    let text : Content := .bytes (Text.encode "Entity: A [id*]".toList)
    let s : Setting :=
      { files := { nodes := [(["in.txt"], .file text), (["er.dot"], .directory),
          (["er.pptx"], .file (.bytes [1]) { writable := false })] }
        tool := .present fun input => { output := header ++ [UInt8.ofNat input.length] } }
    let a : Arguments :=
      { input := "in.txt", output := "er", structured := true, dot := true, slide := true }
    let plain := run s { a with dot := false, slide := false }
    (plain.result = .ok () ∧ (run s a).result = .ok ()) ∧
      SamePrimary ⟨"er.png"⟩ (run s a) plain ∧
      (run s a).files.node? ["in.txt"] = some (.file text) := by
  intro header text s a plain
  obtain ⟨same, succeeds, -, -, -, keeps⟩ := further_exports_inert s a
  have raster : (⟨a.output⟩ : Path).raster = ⟨"er.png"⟩ := by decide
  have description : (⟨"er.png"⟩ : Path).withExtension "dot" = ⟨"er.dot"⟩ := by decide
  have deck : (⟨"er.png"⟩ : Path).withExtension "pptx" = ⟨"er.pptx"⟩ := by decide
  rw [raster] at same
  rw [raster, description, deck] at keeps
  have primary : SamePrimary ⟨"er.png"⟩ (run s a) plain := same false false
  have done : (run s a).result = .ok () := Files.eq_ok_of_toOption (by decide +kernel)
  have apart : ∀ name, name ≠ "in.txt" → (s.files.locate ⟨name⟩).toOption = some [name] →
      s.files.locate ⟨name⟩ ≠ .ok ["in.txt"] := by
    intro name other led meets
    rw [meets] at led
    cases led
    exact other rfl
  have png := apart "er.png" (by decide) (by decide +kernel)
  have dot := apart "er.dot" (by decide) (by decide +kernel)
  have pptx := apart "er.pptx" (by decide) (by decide +kernel)
  refine ⟨⟨primary.result.trans done, done⟩, primary, ?_⟩
  exact keeps ["in.txt"] png (fun _ => dot) fun _ => pptx

end EntityDiagram.Command
