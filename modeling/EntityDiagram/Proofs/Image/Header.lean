import EntityDiagram.Image.Header
import Mathlib.Algebra.Group.Nat.Defs
import Mathlib.Data.List.Induction

/-! # Headers that are read

A header is a row of parts of fixed lengths, and data with enough bytes falls into these parts in
one way. What is read depends on the parts alone: it is the size that stands in them if the
signature and the name of the chunk are right and neither number is zero. The check of the length
comes before every access, so that no access is outside the data.
-/

namespace EntityDiagram

namespace ImageSize

/-! ## Numbers of several bytes -/

/-- The last `count` bytes of `n`, the highest first. -/
def bytesOf : Nat → Nat → List UInt8
  | 0, _ => []
  | count + 1, n => bytesOf count (n / 256) ++ [UInt8.ofNat n]

@[simp] theorem length_bytesOf (count n : Nat) : (bytesOf count n).length = count := by
  induction count generalizing n with
  | zero => rfl
  | succ count ih => rw [bytesOf, List.length_append, ih, List.length_singleton]

theorem bigEndian_concat (bytes : List UInt8) (b : UInt8) :
    bigEndian (bytes ++ [b]) = bigEndian bytes * 256 + b.toNat := by
  rw [bigEndian, bigEndian, List.foldl_append]
  rfl

theorem bigEndian_bytesOf (count n : Nat) : bigEndian (bytesOf count n) = n % 256 ^ count := by
  induction count generalizing n with
  | zero => rw [Nat.pow_zero, Nat.mod_one, bytesOf]; rfl
  | succ count ih =>
    have low : (UInt8.ofNat n).toNat = n % 256 := UInt8.toNat_ofNat'
    rw [bytesOf, bigEndian_concat, ih, low, Nat.pow_succ', Nat.mod_mul, Nat.mul_comm, Nat.add_comm]

theorem bigEndian_lt (bytes : List UInt8) : bigEndian bytes < 256 ^ bytes.length := by
  induction bytes using List.reverseRecOn with
  | nil => decide
  | append_singleton bytes b ih =>
    have low := b.toNat_lt
    rw [bigEndian_concat, List.length_append, List.length_singleton, Nat.pow_succ]
    omega

/-- As many bytes as a number was made of give the same bytes. -/
theorem bytesOf_bigEndian (bytes : List UInt8) :
    bytesOf bytes.length (bigEndian bytes) = bytes := by
  induction bytes using List.reverseRecOn with
  | nil => rfl
  | append_singleton bytes b ih =>
    have low := b.toNat_lt
    have quotient : (bigEndian bytes * 256 + b.toNat) / 256 = bigEndian bytes := by omega
    have remainder : UInt8.ofNat (bigEndian bytes * 256 + b.toNat) = b := by
      apply UInt8.toNat_inj.mp
      rw [UInt8.toNat_ofNat']
      omega
    rw [List.length_append, List.length_singleton, bytesOf, bigEndian_concat, quotient, ih,
      remainder]

/-! ## Headers and their parts -/

/-- A size that is one, in numbers of four bytes. -/
structure Proper (size : ImageSize) : Prop where
  width_pos : 1 ≤ size.width
  width_lt : size.width < 2 ^ 32
  height_pos : 1 ≤ size.height
  height_lt : size.height < 2 ^ 32

/-- The bytes up to the end of the size; `chunk` says how long the first chunk is. -/
def header (chunk : List UInt8) (size : ImageSize) : List UInt8 :=
  signature ++ (chunk ++ (headerName ++ (bytesOf 4 size.width ++ bytesOf 4 size.height)))

/-- `data` begins with the header of that size, whatever it says about the chunk and whatever
stands behind. -/
def Heads (size : ImageSize) (data : List UInt8) : Prop :=
  size.Proper ∧ ∃ chunk rest, chunk.length = 4 ∧ data = header chunk size ++ rest

/-- What stands in the places of a header. -/
structure Parts where
  start : List UInt8
  chunk : List UInt8
  name : List UInt8
  width : List UInt8
  height : List UInt8
  length_start : start.length = 8
  length_chunk : chunk.length = 4
  length_name : name.length = 4
  length_width : width.length = 4
  length_height : height.length = 4

namespace Parts

def bytes (p : Parts) : List UInt8 := p.start ++ (p.chunk ++ (p.name ++ (p.width ++ p.height)))

def size (p : Parts) : ImageSize := ⟨bigEndian p.width, bigEndian p.height⟩

/-- What is read in the parts. -/
def judged (p : Parts) : Except ExportError ImageSize :=
  if p.start ≠ signature then .error (.image "not a PNG file")
  else if p.name ≠ headerName then .error (.image "missing IHDR chunk")
  else if p.size.width = 0 ∨ p.size.height = 0 then
    .error (.image ("invalid size " ++ toString p.size.width ++ "x" ++ toString p.size.height))
  else .ok p.size

/-- The parts of a header. -/
def ofSize (chunk : List UInt8) (long : chunk.length = 4) (size : ImageSize) : Parts where
  start := signature
  chunk := chunk
  name := headerName
  width := bytesOf 4 size.width
  height := bytesOf 4 size.height
  length_start := rfl
  length_chunk := long
  length_name := rfl
  length_width := length_bytesOf ..
  length_height := length_bytesOf ..

variable (p : Parts)

theorem length_bytes : p.bytes.length = headerLength := by
  simp only [bytes, List.length_append, p.length_start, p.length_chunk, p.length_name,
    p.length_width, p.length_height, headerLength]

theorem width_lt : p.size.width < 2 ^ 32 := by
  have bound := bigEndian_lt p.width
  rwa [p.length_width] at bound

theorem height_lt : p.size.height < 2 ^ 32 := by
  have bound := bigEndian_lt p.height
  rwa [p.length_height] at bound

theorem size_ofSize {size : ImageSize} (proper : size.Proper) {chunk : List UInt8}
    (long : chunk.length = 4) : (ofSize chunk long size).size = size := by
  have width : size.width % 256 ^ 4 = size.width := Nat.mod_eq_of_lt proper.width_lt
  have height : size.height % 256 ^ 4 = size.height := Nat.mod_eq_of_lt proper.height_lt
  rw [Parts.size, ofSize, bigEndian_bytesOf, bigEndian_bytesOf, width, height]

/-- Parts of the right kind are those of a header of their size. -/
theorem bytes_eq_header (start : p.start = signature) (name : p.name = headerName) :
    p.bytes = header p.chunk p.size := by
  have width := bytesOf_bigEndian p.width
  have height := bytesOf_bigEndian p.height
  rw [p.length_width] at width
  rw [p.length_height] at height
  rw [bytes, start, name, header, size, width, height]

theorem judged_eq_ok_iff {size : ImageSize} :
    p.judged = .ok size ↔
      p.start = signature ∧ p.name = headerName ∧ p.size = size ∧ size.Proper := by
  constructor
  · intro ok
    rw [judged] at ok
    split at ok
    · cases ok
    · next start =>
      split at ok
      · cases ok
      · next name =>
        split at ok
        · cases ok
        · next positive =>
          cases ok
          refine ⟨not_not.mp start, not_not.mp name, rfl, ?_, p.width_lt, ?_, p.height_lt⟩
          · omega
          · omega
  · rintro ⟨start, name, rfl, proper⟩
    have positive : ¬(p.size.width = 0 ∨ p.size.height = 0) := by
      have width := proper.width_pos
      have height := proper.height_pos
      omega
    rw [judged, if_neg (not_not.mpr start), if_neg (not_not.mpr name), if_neg positive]

theorem judged_cases :
    (∃ size, p.judged = .ok size) ∨ ∃ reason, p.judged = .error (.image reason) := by
  rw [judged]
  split
  · exact .inr ⟨_, rfl⟩
  · split
    · exact .inr ⟨_, rfl⟩
    · split
      · exact .inr ⟨_, rfl⟩
      · exact .inl ⟨_, rfl⟩

end Parts

/-! ## What is read where -/

variable {data : List UInt8} {size : ImageSize} {first count : Nat}

theorem slice_append {before middle : List UInt8} (stands : before.length = first)
    (long : middle.length = count) (rest : List UInt8) :
    slice first count (before ++ (middle ++ rest)) = middle := by
  rw [slice, List.drop_left' stands, List.take_left' long]

theorem slice_append_drop (first count : Nat) (data : List UInt8) :
    slice first count data ++ data.drop (first + count) = data.drop first := by
  rw [slice, ← List.drop_drop, List.take_append_drop]

theorem length_slice (inside : first + count ≤ data.length) :
    (slice first count data).length = count := by
  rw [slice, List.length_take, List.length_drop]
  omega

/-- Data that is long enough has all the parts, one behind the other from its start on. -/
theorem exists_parts (enough : headerLength ≤ data.length) :
    ∃ (p : Parts) (rest : List UInt8), data = p.bytes ++ rest := by
  rw [headerLength] at enough
  refine ⟨⟨slice 0 8 data, slice 8 4 data, slice 12 4 data, slice 16 4 data, slice 20 4 data,
    length_slice (by omega), length_slice (by omega), length_slice (by omega),
    length_slice (by omega), length_slice (by omega)⟩, data.drop 24, ?_⟩
  simp only [Parts.bytes, List.append_assoc]
  rw [slice_append_drop 20 4, slice_append_drop 16 4, slice_append_drop 12 4, slice_append_drop 8 4,
    slice_append_drop 0 8, List.drop_zero]

theorem accessed?_eq (data : List UInt8) : accessed? data = some (read data) :=
  (Option.some_get (accessed?_isSome data)).symm

theorem read_of_short (short : data.length < headerLength) :
    read data = .error (.image "not a PNG file") := by
  have answer := accessed?_eq data
  rw [accessed?, if_pos short] at answer
  exact (Option.some.inj answer).symm

/-- Nothing behind the parts is looked at. -/
theorem read_parts (p : Parts) (rest : List UInt8) : read (p.bytes ++ rest) = p.judged := by
  have start : slice 0 8 (p.bytes ++ rest) = p.start := by
    rw [slice, List.drop_zero, Parts.bytes, List.append_assoc, List.take_left' p.length_start]
  have name : slice 12 4 (p.bytes ++ rest) = p.name := by
    have split : p.bytes ++ rest =
        (p.start ++ p.chunk) ++ (p.name ++ (p.width ++ (p.height ++ rest))) := by
      simp only [Parts.bytes, List.append_assoc]
    rw [split, slice_append (by simp [p.length_start, p.length_chunk]) p.length_name]
  have width : slice 16 4 (p.bytes ++ rest) = p.width := by
    have split : p.bytes ++ rest =
        (p.start ++ (p.chunk ++ p.name)) ++ (p.width ++ (p.height ++ rest)) := by
      simp only [Parts.bytes, List.append_assoc]
    rw [split, slice_append (by simp [p.length_start, p.length_chunk, p.length_name])
      p.length_width]
  have height : slice 20 4 (p.bytes ++ rest) = p.height := by
    have split : p.bytes ++ rest =
        (p.start ++ (p.chunk ++ (p.name ++ p.width))) ++ (p.height ++ rest) := by
      simp only [Parts.bytes, List.append_assoc]
    rw [split, slice_append
      (by simp [p.length_start, p.length_chunk, p.length_name, p.length_width]) p.length_height]
  have enough : headerLength ≤ (p.bytes ++ rest).length := by
    rw [List.length_append, p.length_bytes]
    omega
  apply Option.some.inj
  rw [← accessed?_eq, accessed?_of_enough enough, start, name, width, height]
  rfl

/-- A size is read exactly if the data begins with its header. -/
theorem read_eq_ok_iff : read data = .ok size ↔ size.Heads data := by
  constructor
  · intro ok
    rcases Nat.lt_or_ge data.length headerLength with short | enough
    · rw [read_of_short short] at ok
      cases ok
    · obtain ⟨p, rest, rfl⟩ := exists_parts enough
      rw [read_parts, p.judged_eq_ok_iff] at ok
      obtain ⟨start, name, rfl, proper⟩ := ok
      exact ⟨proper, p.chunk, rest, p.length_chunk, by rw [p.bytes_eq_header start name]⟩
  · rintro ⟨proper, chunk, rest, long, rfl⟩
    refine (read_parts (Parts.ofSize chunk long size) rest).trans ?_
    exact (Parts.judged_eq_ok_iff _).mpr ⟨rfl, rfl, Parts.size_ofSize proper long, proper⟩

theorem read_cases (data : List UInt8) :
    (∃ size, read data = .ok size) ∨ ∃ reason, read data = .error (.image reason) := by
  rcases Nat.lt_or_ge data.length headerLength with short | enough
  · exact .inr ⟨_, read_of_short short⟩
  · obtain ⟨p, rest, rfl⟩ := exists_parts enough
    rw [read_parts]
    exact p.judged_cases

theorem read_take (data : List UInt8) : read (data.take headerLength) = read data := by
  rcases Nat.lt_or_ge data.length headerLength with short | enough
  · rw [List.take_of_length_le (Nat.le_of_lt short)]
  · obtain ⟨p, rest, rfl⟩ := exists_parts enough
    have whole := read_parts p []
    rw [List.append_nil] at whole
    rw [List.take_left' p.length_bytes, whole, read_parts]

/-- A size is read exactly from the data that begins with its header, both numbers being of four
bytes and neither zero; all other data, however short, is refused as an image. No access is outside
the data, a header is read as the size it was made for, and nothing behind it plays a part. -/
theorem read_exact :
    (∀ data size, read data = .ok size ↔ size.Heads data) ∧
    (∀ data, (∃ reason, read data = .error (.image reason)) ↔ ∀ size : ImageSize, ¬size.Heads data) ∧
    (∀ data, accessed? data = some (read data)) ∧
    (∀ (size : ImageSize) chunk rest, size.Proper → chunk.length = 4 →
      read (header chunk size ++ rest) = .ok size) ∧
    ∀ data other : List UInt8, data.take headerLength = other.take headerLength →
      read data = read other := by
  refine ⟨fun _ _ => read_eq_ok_iff, fun data => ⟨?_, fun never => ?_⟩, accessed?_eq,
    fun size chunk rest proper long => ?_, fun data other same => ?_⟩
  · rintro ⟨reason, refused⟩ size heads
    rw [read_eq_ok_iff.mpr heads] at refused
    cases refused
  · rcases read_cases data with ⟨size, ok⟩ | refused
    · exact absurd (read_eq_ok_iff.mp ok) (never size)
    · exact refused
  · exact read_eq_ok_iff.mpr ⟨proper, chunk, rest, long, rfl⟩
  · rw [← read_take data, same, read_take]

/-- The widest image there is, with and without another byte behind its header. -/
theorem read_exact_widest :
    let size : ImageSize := { width := 4294967295, height := 1 }
    let short := header [0, 0, 0, 13] size
    let long := short ++ [0xFF]
    size.Proper ∧ read long = .ok size ∧ short.take headerLength = long.take headerLength ∧
      read short = read long := by
  intro size short long
  have proper : size.Proper := ⟨by decide, by decide, by decide, by decide⟩
  have same : short.take headerLength = long.take headerLength := by decide
  obtain ⟨-, -, -, reads, alike⟩ := read_exact
  exact ⟨proper, reads size [0, 0, 0, 13] [0xFF] proper rfl, same, alike short long same⟩

end ImageSize

end EntityDiagram
