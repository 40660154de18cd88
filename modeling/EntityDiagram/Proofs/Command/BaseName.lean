import EntityDiagram.Proofs.Command.Secondary
import EntityDiagram.Proofs.Export.Suffix

/-! # What the files of a run are called

An image that was drawn has a base name and a suffix. The other exports of the run have the same
base name and an extension of their own, as far as the last name of the base name is a name: where
there is none the suffix of the image is not replaced but stays, and where it is a single dot no
file name is left at all.
-/

namespace EntityDiagram.Command

open EntityDiagram.Path

/-- Where an export with the given extension goes if the image is `base` with its suffix. -/
def beside (base extension : String) : String :=
  if lastName base.toList = [] then base ++ ".png." ++ extension
  else if lastName base.toList = ['.'] then base ++ "."
  else base ++ "." ++ extension

/-- What `content` for `path` comes to: nothing unless it is asked for and can be written. -/
inductive Exported (asked : Bool) (files : Files) (path : Path) (content : Content) : Files → Prop
  | unasked (spared : asked = false) : Exported asked files path content files
  | refused {cause : FileError} (wanted : asked = true)
      (failure : files.write path content = .error cause) : Exported asked files path content files
  | written {after : Files} (wanted : asked = true)
      (success : files.write path content = .ok after) : Exported asked files path content after

/-- The files of a run that succeeds, by the base name that they share: the image, then the
description if it is asked for, then the deck if it is asked for and the image can be read and
shown. -/
structure SharesBase (s : Setting) (a : Arguments) (base : String) (c : Config) (text : String)
    (sent : Sent (Logged Model)) (data : List UInt8) (drawn described : Files) : Prop where
  ready : Ready s a c text sent
  called : (⟨a.output⟩ : Path).raster = ⟨base ++ ".png"⟩
  image : s.files.WrittenAt ⟨base ++ ".png"⟩ (.bytes data) drawn
  description : Exported a.dot drawn ⟨beside base "dot"⟩
    (.bytes (Text.encode (Description.text sent.value.value))) described
  intact : described.Holds ⟨base ++ ".png"⟩ (.bytes data)
  deck : match described.readBytes ⟨base ++ ".png"⟩, ImageSize.read data with
    | .ok _, .ok size => Exported a.slide described ⟨beside base "pptx"⟩
        (.archive (Deck.parts { title := c.title, picture := Exporter.picture data size }))
        (run s a).files
    | _, _ => (run s a).files = described

variable {s : Setting} {a : Arguments} {c : Config} {text : String} {m : Model} {x : Exporter}
  {p image : Path} {files after : Files} {data : List UInt8} {content : Content}

/-! ## Next to an image -/

theorem withExtension_image (base extension : String) :
    (⟨base ++ ".png"⟩ : Path).withExtension extension = ⟨beside base extension⟩ := by
  have written : (base ++ ".png").toList = base.toList ++ ".png".toList ++ [] := by
    rw [String.toList_append, List.append_nil]
  rw [beside]
  by_cases unnamed : lastName base.toList = []
  · rw [if_pos unnamed, withExtension_of_bare (String.toList_append ..) unnamed (by decide)
      (by decide) (by decide)]
    simp only [String.append_assoc]
    rfl
  · rw [if_neg unnamed]
    by_cases dot : lastName base.toList = ['.']
    · rw [if_pos dot, withExtension_of_dot written unnamed .done (by decide) (by decide) (by decide)
        dot rfl, String.ofList_append, String.ofList_toList]
    · rw [if_neg dot, withExtension_of_suffix written unnamed .done (by decide) (by decide)
        (by decide) fun up => absurd up dot, String.ofList_toList]

/-- The extension takes the place of the suffix exactly behind a name that is no single dot. -/
theorem beside_eq_iff (base : String) {extension : String} (nonempty : extension ≠ "") :
    beside base extension = base ++ "." ++ extension ↔ lastName base.toList ∉ [[], ['.']] := by
  have apart : ∀ first second : String, first.toList.length ≠ second.toList.length →
      base ++ first ≠ base ++ second := by
    intro first second lengths same
    have length := congrArg (fun t => t.toList.length) same
    simp only [String.toList_append, List.length_append] at length
    omega
  have long : 0 < extension.toList.length :=
    List.length_pos_iff.mpr (mt String.toList_eq_nil_iff.mp nonempty)
  rw [beside, List.mem_cons, List.mem_singleton, not_or]
  split
  · next unnamed =>
    refine iff_of_false ?_ fun named => named.1 unnamed
    rw [String.append_assoc, String.append_assoc]
    refine apart _ _ ?_
    have five : ".png.".toList.length = 5 := by decide
    have one : ".".toList.length = 1 := by decide
    simp only [String.toList_append, List.length_append]
    omega
  · next named =>
    split
    · next dot =>
      refine iff_of_false ?_ fun named => named.2 dot
      rw [String.append_assoc]
      refine apart _ _ ?_
      simp only [String.toList_append, List.length_append]
      omega
    · next other => exact iff_of_true rfl ⟨named, other⟩

/-- An image that can be written has its suffix at the end. -/
theorem exists_base_of_write (written : files.write p.raster content = .ok after) :
    ∃ base : String, p.raster = ⟨base ++ ".png"⟩ := by
  obtain ⟨base, trail, text, closing, -⟩ := raster_written p
  have last : trail = [] := by
    by_contra more
    have stops := Files.not_trailing_of_write written
    rw [text, closing.lastName more] at stops
    cases stops
  have same : p.raster.text = String.ofList base ++ ".png" := by
    rw [← String.toList_inj, text, last, List.append_nil, String.toList_append,
      @String.toList_ofList base]
  exact ⟨String.ofList base, congrArg Path.mk same⟩

/-! ## Exports that are asked for -/

theorem writeDescription_exported (a : Arguments) (m : Model) (image : Path) (files : Files) :
    Exported a.dot files (image.withExtension "dot")
      (.bytes (Text.encode (Description.text m))) (writeDescription a m image files).files := by
  rw [writeDescription]
  cases asked : a.dot with
  | false => exact .unasked rfl
  | true =>
    rw [if_pos rfl, (secondary_same _ _ _).1, Exporter.exportDescription]
    cases attempt : files.write (image.withExtension "dot")
        (.bytes (Text.encode (Description.text m))) with
    | error cause => exact .refused rfl attempt
    | ok written => exact .written rfl attempt

theorem writeSlide_exported (deck : x.writer = .deck) (rendered : x.image? = some image)
    (held : files.Holds image (.bytes data)) :
    match files.readBytes image, ImageSize.read data with
    | .ok _, .ok size => Exported a.slide files (image.withExtension "pptx")
        (.archive (Deck.parts { title := x.title, picture := Exporter.picture data size }))
        (writeSlide a x image files).files
    | _, _ => (writeSlide a x image files).files = files := by
  rw [writeSlide]
  cases read : files.readBytes image with
  | error cause =>
    cases a.slide with
    | false => rfl
    | true =>
      rw [if_pos rfl, (secondary_same _ _ _).1,
        Exporter.exportSlide_of_unreadable files rendered read]
  | ok bytes =>
    have whole := held.readBytes (Files.allowed_of_readBytes read)
    obtain rfl : bytes = data := Except.ok.inj (read.symm.trans whole)
    cases sized : ImageSize.read bytes with
    | error e =>
      cases a.slide with
      | false => rfl
      | true =>
        rw [if_pos rfl, (secondary_same _ _ _).1,
          Exporter.exportSlide_of_unsized files rendered read sized]
    | ok size =>
      cases asked : a.slide with
      | false => exact .unasked rfl
      | true =>
        obtain ⟨-, left, -⟩ :=
          Exporter.exportSlide_of_readable files rendered read sized (image.withExtension "pptx")
        rw [if_pos rfl, (secondary_same _ _ _).1, left, deck, SlideWriter.deck,
          SlideWriter.assembled]
        simp only
        cases attempt : files.write (image.withExtension "pptx")
            (.archive (Deck.parts { title := x.title, picture := Exporter.picture bytes size })) with
        | error cause => exact .refused rfl attempt
        | ok written => exact .written rfl attempt

/-- What the slide is made of is there after the description. -/
theorem described_holds (a : Arguments) (m : Model) {output : Path}
    (held : files.Holds output.raster content) :
    (writeDescription a m output.raster files).files.Holds output.raster content := by
  obtain ⟨access, looked⟩ := held.stands
  exact Files.holds_of_look (described_look a m looked)

/-- A run that succeeds leaves an image that is called by a base name and the suffix, and of what
else it is asked for it writes the description and the deck next to it, each under the base name and
an extension of its own. That is the path of the image with its suffix replaced exactly if the base
name ends in a name other than a single dot. -/
theorem run_shares_base (done : (run s a).result = .ok ()) :
    ∃ base c text sent data drawn described,
      SharesBase s a base c text sent data drawn described ∧
      ∀ extension, extension ≠ "" →
        (beside base extension = base ++ "." ++ extension ↔ lastName base.toList ∉ [[], ['.']]) := by
  cases course s a with
  | stopped e left graphs posts touched never stops =>
    have result : (run s a).result = .error e := (stops a.dot a.slide).result
    cases result.symm.trans done
  | drawn c text sent image ready drawn goes =>
    obtain ⟨rfl, rendered, deck, -⟩ := drawing_of_ok drawn
    have left : (run s a).files = _ := (goes a.dot a.slide).files
    have ends : Exporter.Ends _ _ _ _ (drawing s a c sent.value.value).2.result
        (drawing s a c sent.value.value).2.files := Exporter.ends_of_tryRender _ _ _ _ _
    obtain ⟨-, _, -, -, after, success⟩ := ends.ok_iff.mp drawn
    obtain ⟨base, called⟩ := exists_base_of_write success
    rw [drawn] at ends
    obtain ⟨data, -, -, written⟩ := ends.writtenAt_of_ok
    have titled : (drawing s a c sent.value.value).1.title = c.title :=
      Exporter.tryRender_title _ _ _ _ _
    have described := writeDescription_exported a sent.value.value (⟨a.output⟩ : Path).raster
      (drawing s a c sent.value.value).2.files
    have held := described_holds a sent.value.value written.holds
    have shown := writeSlide_exported (a := a) deck rendered held
    rw [titled, called, withExtension_image] at shown
    rw [called, withExtension_image] at described
    rw [called] at held
    refine ⟨base, c, text, sent, data, _, _,
      ⟨ready, called, called ▸ written, described, held, ?_⟩,
      fun extension nonempty => beside_eq_iff base nonempty⟩
    rw [left, called]
    exact shown

/-- A base name with a dot in it. -/
theorem run_shares_base_version :
    let header : List UInt8 := ImageSize.signature ++ [0, 0, 0, 13] ++ ImageSize.headerName ++
      [0, 0, 0, 2, 0, 0, 0, 1]
    let text : Content := .bytes (Text.encode "Entity: A [id*]".toList)
    let s : Setting :=
      { files := { nodes := [(["in.txt"], .file text), (["d"], .directory)] }
        tool := .present fun _ => { output := header } }
    let a : Arguments :=
      { input := "in.txt", output := "d/x.v2.png", structured := true, dot := true, slide := true }
    (run s a).result = .ok () ∧
      (∃ c text sent data drawn described,
        SharesBase s a "d/x.v2" c text sent data drawn described) ∧
      beside "d/x.v2" "dot" = "d/x.v2.dot" ∧ beside "d/x.v2" "pptx" = "d/x.v2.pptx" := by
  intro header text s a
  have done : (run s a).result = .ok () := Files.eq_ok_of_toOption (by decide +kernel)
  obtain ⟨base, c, text, sent, data, drawn, described, shares, replaced⟩ := run_shares_base done
  have called : (⟨"d/x.v2.png"⟩ : Path) = ⟨base ++ ".png"⟩ := by
    rw [← shares.called]
    decide
  obtain rfl : base = "d/x.v2" := by
    have same : "d/x.v2".toList ++ ".png".toList = base.toList ++ ".png".toList := by
      have written := congrArg (fun p => p.text.toList) called
      simp only [String.toList_append] at written
      rw [← written]
      decide
    exact String.toList_inj.mp (List.append_cancel_right same).symm
  have named : lastName "d/x.v2".toList ∉ [[], ['.']] := by decide
  exact ⟨done, ⟨c, text, sent, data, drawn, described, shares⟩,
    (replaced "dot" (by decide)).mpr named, (replaced "pptx" (by decide)).mpr named⟩

/-- Without a base name the suffix of the image stays, so the other exports do not have the base
name of the image. -/
theorem unnamed_keeps_suffix :
    let header : List UInt8 := ImageSize.signature ++ [0, 0, 0, 13] ++ ImageSize.headerName ++
      [0, 0, 0, 2, 0, 0, 0, 1]
    let text : Content := .bytes (Text.encode "Entity: A [id*]".toList)
    let s : Setting :=
      { files := { nodes := [(["in.txt"], .file text), (["d"], .directory)] }
        tool := .present fun _ => { output := header } }
    let a : Arguments :=
      { input := "in.txt", output := "d/", structured := true, dot := true, slide := true }
    (run s a).result = .ok () ∧ (run s a).files.nodes.map Prod.fst =
      [["d", ".png.pptx"], ["d", ".png.dot"], ["d", ".png"], ["in.txt"], ["d"]] := by
  intro header text s a
  exact ⟨Files.eq_ok_of_toOption (by decide +kernel), by decide +kernel⟩

end EntityDiagram.Command
