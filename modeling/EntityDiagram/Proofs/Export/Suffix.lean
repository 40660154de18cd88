import EntityDiagram.Proofs.Export.Effects
import EntityDiagram.Proofs.Files.Path

/-! # The suffix of an image

An image should be called by its base name and one suffix. The suffix of a requested path is found
as the extension of its file name, though, and the two differ at both ends: a file name that is
nothing but the suffix has no extension, so it gets a second one, and slashes behind a file name do
not count, so it gets none. In all other cases there is one suffix, and asking for the image under
its own path is asking for the same image.
-/

namespace EntityDiagram

namespace Path

/-- The base name and the suffix, where the base name is the path without a suffix at its end. -/
def suffixed (p : Path) : Path :=
  if ".png".toList <:+ p.text.toList then p else ⟨p.text ++ ".png"⟩

/-- The last name is nothing but the suffix. -/
def Bare (p : Path) : Prop := lastName p.text.toList = ".png".toList

/-- Slashes stand behind a file name that ends in the suffix, or slashes and single dots. -/
def Closed (p : Path) : Prop :=
  ∃ base trail, p.text.toList = base ++ ".png".toList ++ trail ∧ lastName base ≠ [] ∧
    Closing trail ∧ trail ≠ []

variable {p : Path} {base trail : List Char}

/-- The image of a path: the suffix is put behind it, or is there already, at the end or not. -/
inductive Shape (p : Path) : Prop
  | grown (needed : ¬ ".png".toList <:+ p.text.toList ∨ p.Bare)
      (appended : p.raster = ⟨p.text ++ ".png"⟩) (unclosed : ¬ p.Closed)
  | whole (base : List Char) (written : p.text.toList = base ++ ".png".toList)
      (named : lastName base ≠ []) (kept : p.raster = p)
  | closed (closed : p.Closed) (kept : p.raster = p)

theorem suffix_iff (p : Path) :
    ".png".toList <:+ p.text.toList ↔ ∃ base, p.text.toList = base ++ ".png".toList :=
  exists_congr fun _ => eq_comm

theorem trailing_of_closed (closed : p.Closed) : trailing (lastName p.text.toList) = true := by
  obtain ⟨base, trail, written, -, closing, more⟩ := closed
  rw [written]
  exact closing.lastName more _

theorem not_closed_of_suffix (written : p.text.toList = base ++ ".png".toList) : ¬ p.Closed := by
  intro closed
  have stays := trailing_of_closed closed
  rw [written, lastName_png, trailing_png] at stays
  cases stays

theorem Bare.suffix (bare : p.Bare) : ".png".toList <:+ p.text.toList := by
  obtain ⟨folder, written, -⟩ := exists_folder p.text.toList
  rw [bare] at written
  exact ⟨folder, written.symm⟩

theorem shape (p : Path) : Shape p := by
  by_cases suffix : ∃ base trail, p.text.toList = base ++ ".png".toList ++ trail ∧
      lastName base ≠ [] ∧ Closing trail
  · obtain ⟨base, trail, written, named, closing⟩ := suffix
    have kept := raster_of_suffix written named closing
    by_cases last : trail = []
    · rw [last, List.append_nil] at written
      exact .whole base written named kept
    · exact .closed ⟨base, trail, written, named, closing, last⟩ kept
  · refine .grown ?_ (raster_of_other suffix) ?_
    · by_cases ends : ".png".toList <:+ p.text.toList
      · obtain ⟨base, written⟩ := (suffix_iff p).mp ends
        refine .inr ?_
        have unnamed : lastName base = [] := by
          by_contra named
          exact suffix ⟨base, [], by rw [written, List.append_nil], named, .done⟩
        rw [Bare, written, lastName_png, unnamed, List.nil_append]
      · exact .inl ends
    · rintro ⟨base, trail, written, named, closing, -⟩
      exact suffix ⟨base, trail, written, named, closing⟩

theorem append_png_ne (text : String) : text ++ ".png" ≠ text := by
  intro same
  have length := congrArg (fun t => t.toList.length) same
  have four : ".png".toList.length = 4 := by decide
  simp only [String.toList_append, List.length_append] at length
  omega

/-- The image has one suffix, but for the two kinds of paths at whose end it is not the extension. -/
theorem raster_eq_suffixed_iff (p : Path) : p.raster = p.suffixed ↔ ¬ p.Bare ∧ ¬ p.Closed := by
  cases shape p with
  | grown needed appended unclosed =>
    rw [appended, suffixed]
    rcases needed with without | bare
    · rw [if_neg without]
      exact iff_of_true rfl ⟨fun bare => without bare.suffix, unclosed⟩
    · rw [if_pos bare.suffix]
      exact iff_of_false (fun same => append_png_ne p.text (congrArg Path.text same))
        fun neither => neither.1 bare
  | whole base written named kept =>
    have ends : ".png".toList <:+ p.text.toList := (suffix_iff p).mpr ⟨base, written⟩
    rw [kept, suffixed, if_pos ends]
    refine iff_of_true rfl ⟨fun bare => ?_, not_closed_of_suffix written⟩
    rw [Bare, written, lastName_png] at bare
    exact named (List.append_left_eq_self.mp bare)
  | closed closed kept =>
    have without : ¬ ".png".toList <:+ p.text.toList := by
      intro ends
      obtain ⟨base, written⟩ := (suffix_iff p).mp ends
      exact not_closed_of_suffix written closed
    rw [kept, suffixed, if_neg without]
    exact iff_of_false (fun same => append_png_ne p.text (congrArg Path.text same).symm)
      fun neither => neither.2 closed

/-- A path without a last name is turned into a bare suffix, which gets a second one. -/
theorem raster_raster_of_unnamed (unnamed : lastName p.text.toList = []) (unclosed : ¬ p.Closed) :
    p.raster = ⟨p.text ++ ".png"⟩ ∧ p.raster.raster = ⟨p.text ++ ".png" ++ ".png"⟩ := by
  have appended : p.raster = ⟨p.text ++ ".png"⟩ := by
    cases shape p with
    | grown needed appended unclosed => exact appended
    | whole base written named kept =>
      rw [written, lastName_png] at unnamed
      exact absurd unnamed (List.append_ne_nil_of_right_ne_nil _ (by decide))
    | closed closed kept => exact absurd closed unclosed
  refine ⟨appended, ?_⟩
  rw [appended]
  refine raster_of_bare ?_
  rw [String.toList_append, lastName_png, unnamed, List.nil_append]

theorem raster_raster_iff (p : Path) :
    p.raster.raster = p.raster ↔ lastName p.text.toList ≠ [] ∨ p.Closed := by
  by_cases unnamed : lastName p.text.toList = []
  · by_cases closed : p.Closed
    · refine iff_of_true ?_ (.inr closed)
      cases shape p with
      | grown needed appended unclosed => exact absurd closed unclosed
      | whole base written named kept => rw [kept, kept]
      | closed closed kept => rw [kept, kept]
    · obtain ⟨once, twice⟩ := raster_raster_of_unnamed unnamed closed
      refine iff_of_false (fun same => ?_) (not_or.mpr ⟨not_not.mpr unnamed, closed⟩)
      rw [twice, once] at same
      exact append_png_ne _ (congrArg Path.text same)
  · refine iff_of_true ?_ (.inl unnamed)
    cases shape p with
    | grown needed appended unclosed =>
      rw [appended]
      exact raster_of_suffix (by rw [String.toList_append, List.append_nil]) unnamed .done
    | whole base written named kept => rw [kept, kept]
    | closed closed kept => rw [kept, kept]

end Path

namespace Files

open EntityDiagram.Path

variable {files : Files} {location : Location} {p : Path} {content : Content}

/-- Nothing is written where a path ends in slashes, or in slashes and single dots: that would be a
directory. -/
theorem not_trailing_of_write {after : Files} (written : files.write p content = .ok after) :
    trailing (lastName p.text.toList) = false := by
  rw [Bool.eq_false_iff]
  intro stays
  obtain ⟨location, led, free, -⟩ := write_spec written
  obtain ⟨directories, split⟩ := exists_splitAt_lastName p.text.toList
  rw [locate] at led
  cases checked : checkName p with
  | error e => rw [checked] at led; cases led
  | ok done =>
    rw [checked] at led
    change files.walk (files.start p) ((Text.splitAt '/' p.text.toList).map String.ofList) = _ at led
    rw [split, List.map_append, walk_append] at led
    cases walked : files.walk (files.start p) (directories.map String.ofList) with
    | error e => rw [walked] at led; cases led
    | ok place =>
      rw [walked] at led
      have stepped : files.step place (String.ofList (lastName p.text.toList)) = .ok location :=
        (walk_singleton _).symm.trans led
      obtain ⟨access, found⟩ := node?_of_step stepped
      rw [eq_of_step_trailing stays stepped] at free
      exact free access found

/-- A suffix more is another place. -/
theorem locate_append_ne {text : String} (unnamed : lastName text.toList = [])
    (led : files.locate ⟨text ++ ".png"⟩ = .ok location) :
    files.locate ⟨text ++ ".png" ++ ".png"⟩ ≠ .ok location := by
  intro meets
  have first : lastName (text ++ ".png").toList = ".png".toList := by
    rw [String.toList_append, lastName_png, unnamed, List.nil_append]
  have second : lastName (text ++ ".png" ++ ".png").toList = ".png.png".toList := by
    rw [String.toList_append, lastName_png, first]
    rfl
  have named : ∀ (q : Path) name, lastName q.text.toList = name → trailing name = false →
      name ≠ ['.', '.'] → q.fileName? = some name := by
    rintro q name rfl stops down
    exact fileName?_of_closing (List.append_nil _).symm .done stops down
  have once := getLast?_of_locate (named _ _ first (by decide) (by decide)) led
  have twice := getLast?_of_locate (named _ _ second (by decide) (by decide)) meets
  have same := String.ofList_injective (Option.some.inj (once.symm.trans twice))
  exact absurd same (by decide)

end Files

namespace Exporter

open EntityDiagram.Path

theorem tryRender_of_raster {p q : Path} (same : q.raster = p.raster) (x : Exporter)
    (layout : Layout) (m : Model) (files : Files) :
    x.tryRender layout m q files = x.tryRender layout m p files := by
  rw [tryRender, tryRender, same]

/-- An image is called by its base name and one suffix unless the last name of what is asked for is
nothing but the suffix, which is doubled, or slashes stand behind the suffix, which are kept. In the
latter case nothing can be drawn. Asking for the image under its own path is asking for the same,
and draws the same, unless what is asked for has no last name, so that the image is a bare suffix;
then the image of the image has a suffix more and is another file. -/
theorem suffix_once (p : Path) :
    (p.raster = p.suffixed ↔ ¬ p.Bare ∧ ¬ p.Closed) ∧
    (p.Bare → p.raster = ⟨p.text ++ ".png"⟩) ∧
    (p.Closed → p.raster = p ∧ ∀ (x : Exporter) layout m files image,
      (x.tryRender layout m p files).2.result ≠ .ok image) ∧
    (p.raster.raster = p.raster ↔ lastName p.text.toList ≠ [] ∨ p.Closed) ∧
    (p.raster.raster = p.raster → ∀ (x : Exporter) layout m files,
      x.tryRender layout m p.raster files = x.tryRender layout m p files ∧
      x.render layout m p.raster files = x.render layout m p files) ∧
    (p.raster.raster ≠ p.raster → ∀ (files : Files) location,
      files.locate p.raster = .ok location → files.locate p.raster.raster ≠ .ok location) := by
  refine ⟨raster_eq_suffixed_iff p, raster_of_bare, fun closed => ?_, raster_raster_iff p,
    fun settled x layout m files => ?_, fun unsettled files location led => ?_⟩
  · have kept : p.raster = p := by
      obtain ⟨base, trail, written, named, closing, -⟩ := closed
      exact raster_of_suffix written named closing
    refine ⟨kept, fun x layout m files image drawn => ?_⟩
    obtain ⟨-, data, -, -, written, success⟩ :=
      (ends_of_tryRender x layout m p files).ok_iff.mp drawn
    rw [kept] at success
    have stops := Files.not_trailing_of_write success
    rw [trailing_of_closed closed] at stops
    cases stops
  · have same := tryRender_of_raster settled x layout m files
    exact ⟨same, by rw [render, render, same]⟩
  · have neither := mt (raster_raster_iff p).mpr unsettled
    rw [not_or, not_not] at neither
    obtain ⟨once, twice⟩ := raster_raster_of_unnamed neither.1 neither.2
    rw [once] at led
    rw [twice]
    exact Files.locate_append_ne neither.1 led

/-- The suffix alone is doubled, and no name at all gets a suffix more each time. -/
theorem suffix_doubled :
    (⟨".png"⟩ : Path).raster = ⟨".png.png"⟩ ∧ (⟨".png"⟩ : Path).suffixed = ⟨".png"⟩ ∧
      (⟨""⟩ : Path).raster = ⟨".png"⟩ ∧ (⟨""⟩ : Path).raster.raster = ⟨".png.png"⟩ := by
  decide

end Exporter

end EntityDiagram
