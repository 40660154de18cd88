import EntityDiagram.Proofs.Export.State
import EntityDiagram.Proofs.Files.Store
import EntityDiagram.Proofs.Image.Header
import Mathlib.Algebra.Order.Ring.Int

/-! # The height of a picture

All pictures are of one width, and their height follows from the size in the image. That size comes
from bytes nobody has checked, so it may be anything that eight bytes can say. Its numbers are still
so small that no step leaves 64 bits, and the height is the exact one rounded down; which of two
pictures is the higher one depends on the ratios of the images only.
-/

namespace EntityDiagram

namespace ImageSize

/-- The height at which an image of this size is `width` wide, rounded down. -/
def scaledHeight (size : ImageSize) (width : Int) : Int :=
  Int.tdiv (width * size.height) (max size.width 1)

/-- `height` is that of an image of this size if it is `width` wide. -/
structure Scaled (size : ImageSize) (width height : Int) : Prop where
  computed : size.scaledHeight? width = some height
  nonneg : 0 ≤ height
  lower : height * size.width ≤ width * size.height
  upper : width * size.height < (height + 1) * size.width
  zero_iff : height = 0 ↔ width * size.height < size.width

variable {size s t : ImageSize} {width n : Int}

theorem proper_of_read {data : List UInt8} (ok : read data = .ok size) : size.Proper :=
  (read_eq_ok_iff.mp ok).1

theorem word?_eq (lower : 0 ≤ n) (upper : n < 2 ^ 63) : word? n = some n := by
  have bound : wordBound = 2 ^ 63 := by decide
  rw [word?, bound]
  exact if_pos ⟨by omega, upper⟩

theorem scaledHeight_eq (positive : 1 ≤ size.width) (nonneg : 0 ≤ width) :
    size.scaledHeight width = width * size.height / size.width := by
  have divisor : max (size.width : Int) 1 = size.width := by omega
  have dividend : 0 ≤ width * size.height := Int.mul_nonneg nonneg (Int.natCast_nonneg _)
  rw [scaledHeight, divisor, Int.tdiv_eq_ediv_of_nonneg dividend]

theorem scaledHeight?_eq (proper : size.Proper) (nonneg : 0 ≤ width) (bound : width < 2 ^ 31) :
    size.scaledHeight? width = some (size.scaledHeight width) := by
  have positive := proper.width_pos
  have width_lt := proper.width_lt
  have height_lt := proper.height_lt
  have dividend : 0 ≤ width * size.height := Int.mul_nonneg nonneg (Int.natCast_nonneg _)
  have small : width * size.height < 2 ^ 63 := by
    calc width * size.height ≤ 2 ^ 31 * size.height :=
          Int.mul_le_mul_of_nonneg_right (Int.le_of_lt bound) (Int.natCast_nonneg _)
      _ < 2 ^ 63 := by omega
  have divisor : max (size.width : Int) 1 = size.width := by omega
  have quotient_nonneg : 0 ≤ width * size.height / size.width :=
    Int.ediv_nonneg dividend (Int.natCast_nonneg _)
  have quotient_le : width * size.height / size.width ≤ width * size.height :=
    Int.ediv_le_self _ dividend
  have quotient : quotient? (width * size.height) size.width =
      some (size.scaledHeight width) := by
    rw [quotient?, if_neg (by omega), Int.tdiv_eq_ediv_of_nonneg dividend,
      word?_eq quotient_nonneg (by omega), scaledHeight_eq positive nonneg]
  have fits : word? size.width = some (size.width : Int) := word?_eq (by omega) (by omega)
  simp only [scaledHeight?, word?_eq dividend small, divisor, fits, Option.bind_eq_bind,
    Option.bind_some, quotient]

theorem scaled_of_proper (proper : size.Proper) (nonneg : 0 ≤ width) (bound : width < 2 ^ 31) :
    size.Scaled width (size.scaledHeight width) := by
  have positive : (0 : Int) < size.width := Int.natCast_pos.mpr proper.width_pos
  have dividend : 0 ≤ width * size.height := Int.mul_nonneg nonneg (Int.natCast_nonneg _)
  have height := scaledHeight_eq proper.width_pos nonneg
  have height_nonneg : 0 ≤ size.scaledHeight width := by
    rw [height]
    exact Int.ediv_nonneg dividend (Int.natCast_nonneg _)
  refine ⟨scaledHeight?_eq proper nonneg bound, height_nonneg, ?_, ?_, ?_⟩
  · rw [height]
    exact Int.ediv_mul_le _ (Int.ne_of_gt positive)
  · rw [height]
    exact Int.lt_ediv_add_one_mul_self _ positive
  · have below : size.scaledHeight width < 1 ↔ width * size.height < 1 * size.width := by
      rw [height]
      exact Int.ediv_lt_iff_lt_mul positive
    rw [Int.one_mul] at below
    rw [← below]
    omega

/-- The image that is no lower for its width gives the picture that is no lower. -/
theorem scaledHeight_le (first : s.Proper) (second : t.Proper) (nonneg : 0 ≤ width)
    (ratio : s.height * t.width ≤ t.height * s.width) :
    s.scaledHeight width ≤ t.scaledHeight width := by
  have s_pos : (0 : Int) < s.width := Int.natCast_pos.mpr first.width_pos
  have t_pos : (0 : Int) < t.width := Int.natCast_pos.mpr second.width_pos
  have ratios : (s.height * t.width : Int) ≤ t.height * s.width := by exact_mod_cast ratio
  rw [scaledHeight_eq first.width_pos nonneg, scaledHeight_eq second.width_pos nonneg,
    Int.le_ediv_iff_mul_le t_pos]
  refine le_of_mul_le_mul_right ?_ s_pos
  calc width * s.height / s.width * t.width * s.width
      = width * s.height / s.width * s.width * t.width := Int.mul_right_comm ..
    _ ≤ width * s.height * t.width :=
        Int.mul_le_mul_of_nonneg_right (Int.ediv_mul_le _ (Int.ne_of_gt s_pos)) (Int.le_of_lt t_pos)
    _ = width * (s.height * t.width) := Int.mul_assoc ..
    _ ≤ width * (t.height * s.width) := Int.mul_le_mul_of_nonneg_left ratios nonneg
    _ = width * t.height * s.width := (Int.mul_assoc ..).symm

end ImageSize

namespace Exporter

open ImageSize (Scaled)

theorem pictureWidth_nonneg : 0 ≤ pictureWidth := by decide

theorem pictureWidth_lt : pictureWidth < 2 ^ 31 := by decide

/-- The picture of an image that was read has the height that was computed. -/
theorem height_picture {data : List UInt8} {size : ImageSize}
    (sized : ImageSize.read data = .ok size) :
    (picture data size).height = size.scaledHeight pictureWidth := by
  have computed := ImageSize.scaledHeight?_eq (ImageSize.proper_of_read sized) pictureWidth_nonneg
    pictureWidth_lt
  rw [picture, computed]
  rfl

/-- The picture on a slide of an image is as high as the size in the image asks for: no step of the
computation leaves 64 bits or divides by zero, and the height is the exact one rounded down, which
is zero only for an image more than 7315200 times as wide as high. A higher image never gives a
lower picture nor a wider image a higher one, and images of one ratio give the same. -/
theorem height_exact :
    (∀ (x : Exporter) files path image data size, x.image? = some image →
      files.readBytes image = .ok data → ImageSize.read data = .ok size →
      ∃ slide : Slide, (x.exportSlide path files).shown = [(slide, path)] ∧
        slide.picture.height = size.scaledHeight pictureWidth ∧
        size.Scaled 7315200 slide.picture.height) ∧
    ∀ data other s t, ImageSize.read data = .ok s → ImageSize.read other = .ok t →
      (s.height ≤ t.height → t.width ≤ s.width →
        s.scaledHeight pictureWidth ≤ t.scaledHeight pictureWidth) ∧
      (s.width * t.height = t.width * s.height →
        s.scaledHeight pictureWidth = t.scaledHeight pictureWidth) := by
  have nonneg := pictureWidth_nonneg
  refine ⟨fun x files path image data size rendered read sized => ?_,
    fun data other s t first second => ?_⟩
  · obtain ⟨-, -, shown⟩ := exportSlide_of_readable files rendered read sized path
    have height := height_picture sized
    refine ⟨_, shown, height, ?_⟩
    rw [height]
    exact ImageSize.scaled_of_proper (ImageSize.proper_of_read sized) nonneg pictureWidth_lt
  · have s_proper := ImageSize.proper_of_read first
    have t_proper := ImageSize.proper_of_read second
    refine ⟨fun higher narrower => ?_, fun same => ?_⟩
    · exact ImageSize.scaledHeight_le s_proper t_proper nonneg (Nat.mul_le_mul higher narrower)
    · apply le_antisymm
      · apply ImageSize.scaledHeight_le s_proper t_proper nonneg
        rw [Nat.mul_comm, ← same, Nat.mul_comm]
      · apply ImageSize.scaledHeight_le t_proper s_proper nonneg
        rw [Nat.mul_comm, same, Nat.mul_comm]

/-- The flattest image there is has a picture without any height, which is no higher than that of
the steepest one; half as high as wide is the same for few dots and for many. -/
theorem height_exact_flattest :
    let flat : ImageSize := { width := 4294967295, height := 1 }
    let steep : ImageSize := { width := 1, height := 4294967295 }
    let few : ImageSize := { width := 2, height := 1 }
    let many : ImageSize := { width := 4294967294, height := 2147483647 }
    let data := ImageSize.header [0, 0, 0, 13]
    let files : Files := { nodes := [(["er.png"], .file (.bytes (data flat)))] }
    let x : Exporter := { image? := some ⟨"er.png"⟩ }
    (∃ slide : Slide, (x.exportSlide ⟨"er.pptx"⟩ files).shown = [(slide, ⟨"er.pptx"⟩)] ∧
      slide.picture.height = 0) ∧
    flat.scaledHeight pictureWidth ≤ steep.scaledHeight pictureWidth ∧
    few.scaledHeight pictureWidth = many.scaledHeight pictureWidth := by
  intro flat steep few many data files x
  have sized : ∀ size : ImageSize, size.Proper → ImageSize.read (data size) = .ok size :=
    fun size proper => ImageSize.read_eq_ok_iff.mpr
      ⟨proper, [0, 0, 0, 13], [], rfl, (List.append_nil _).symm⟩
  have flat_sized := sized flat ⟨by decide, by decide, by decide, by decide⟩
  have steep_sized := sized steep ⟨by decide, by decide, by decide, by decide⟩
  have few_sized := sized few ⟨by decide, by decide, by decide, by decide⟩
  have many_sized := sized many ⟨by decide, by decide, by decide, by decide⟩
  have read : files.readBytes ⟨"er.png"⟩ = .ok (data flat) :=
    Files.eq_ok_of_toOption (by decide +kernel)
  obtain ⟨shows, compares⟩ := height_exact
  refine ⟨?_, ?_, ?_⟩
  · obtain ⟨slide, shown, -, scaled⟩ :=
      shows x files ⟨"er.pptx"⟩ ⟨"er.png"⟩ _ flat rfl read flat_sized
    exact ⟨slide, shown, scaled.zero_iff.mpr (by decide)⟩
  · exact (compares _ _ flat steep flat_sized steep_sized).1 (by decide) (by decide)
  · exact (compares _ _ few many few_sized many_sized).2 (by decide)

end Exporter

end EntityDiagram
