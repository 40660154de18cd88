import EntityDiagram.Export.Error

/-! # Image headers

The size of an image stands in its first chunk, which follows the eight bytes of the signature:
four bytes of length, the chunk's name, then width and height with the highest byte first. A size
of zero is not a size. Accesses to the data and steps of 64 bits are checked.
-/

namespace EntityDiagram

structure ImageSize where
  width : Nat
  height : Nat
  deriving DecidableEq, Repr

namespace ImageSize

def signature : List UInt8 := [0x89, 0x50, 0x4E, 0x47, 0x0D, 0x0A, 0x1A, 0x0A]

/-- The name of the first chunk. -/
def headerName : List UInt8 := [0x49, 0x48, 0x44, 0x52]

def bigEndian (bytes : List UInt8) : Nat := bytes.foldl (fun n b => n * 256 + b.toNat) 0

/-- The signature and everything up to the end of the size. -/
def headerLength : Nat := 24

def slice (first count : Nat) (data : List UInt8) : List UInt8 := (data.drop first).take count

/-- The bytes at `count` places from `first` on, if there is a byte at each of them. -/
def bytesAt? (first count : Nat) (data : List UInt8) : Option (List UInt8) :=
  (List.range' first count).mapM (data[·]?)

/-- Reads a size. There is an answer only if every access is inside the data. -/
def accessed? (data : List UInt8) : Option (Except ExportError ImageSize) :=
  if data.length < headerLength then some (.error (.image "not a PNG file"))
  else do
    let start ← bytesAt? 0 8 data
    if start ≠ signature then return .error (.image "not a PNG file")
    let name ← bytesAt? 12 4 data
    if name ≠ headerName then return .error (.image "missing IHDR chunk")
    let width ← bytesAt? 16 4 data
    let height ← bytesAt? 20 4 data
    let size : ImageSize := ⟨bigEndian width, bigEndian height⟩
    if size.width = 0 ∨ size.height = 0 then
      return .error
        (.image ("invalid size " ++ toString size.width ++ "x" ++ toString size.height))
    return .ok size

theorem bytesAt?_eq {first count : Nat} {data : List UInt8} (inside : first + count ≤ data.length) :
    bytesAt? first count data = some (slice first count data) := by
  induction count generalizing first with
  | zero => simp [bytesAt?, slice]
  | succ count ih =>
    have here : first < data.length := by omega
    have behind : bytesAt? (first + 1) count data = some (slice (first + 1) count data) :=
      ih (by omega)
    rw [bytesAt?] at behind ⊢
    rw [List.range'_succ, List.mapM_cons, List.getElem?_eq_getElem here, behind, slice, slice,
      List.drop_eq_getElem_cons here, List.take_succ_cons]
    rfl

/-- Data that is long enough has a byte at every place that is accessed. -/
theorem accessed?_of_enough {data : List UInt8} (enough : headerLength ≤ data.length) :
    accessed? data = some (
      if slice 0 8 data ≠ signature then .error (.image "not a PNG file")
      else if slice 12 4 data ≠ headerName then .error (.image "missing IHDR chunk")
      else
        let size : ImageSize := ⟨bigEndian (slice 16 4 data), bigEndian (slice 20 4 data)⟩
        if size.width = 0 ∨ size.height = 0 then
          .error (.image ("invalid size " ++ toString size.width ++ "x" ++ toString size.height))
        else .ok size) := by
  have long : ¬data.length < headerLength := Nat.not_lt.mpr enough
  rw [headerLength] at enough
  have found : ∀ first count, first + count ≤ 24 →
      bytesAt? first count data = some (slice first count data) :=
    fun first count inside => bytesAt?_eq (by omega)
  rw [accessed?, if_neg long]
  simp only [found 0 8 (by decide), found 12 4 (by decide), found 16 4 (by decide),
    found 20 4 (by decide), Option.bind_eq_bind, Option.bind_some]
  split
  · rfl
  · split
    · rfl
    · split <;> rfl

theorem accessed?_isSome (data : List UInt8) : (accessed? data).isSome := by
  rcases Nat.lt_or_ge data.length headerLength with short | enough
  · rw [accessed?, if_pos short]
    rfl
  · rw [accessed?_of_enough enough]
    rfl

def read (data : List UInt8) : Except ExportError ImageSize :=
  (accessed? data).get (accessed?_isSome data)

/-- The first number that is too large for 64 bits with a sign, two to the power of 63. -/
def wordBound : Int := 9223372036854775808

/-- The number, if it is one of 64 bits with a sign. -/
def word? (n : Int) : Option Int := if -wordBound ≤ n ∧ n < wordBound then some n else none

/-- The quotient without its fraction, if there is one of 64 bits. -/
def quotient? (a b : Int) : Option Int := if b = 0 then none else word? (a.tdiv b)

/-- The height at which an image of this size is `width` wide, rounded down. There is an answer only
if no step leaves 64 bits or divides by zero. -/
def scaledHeight? (size : ImageSize) (width : Int) : Option Int := do
  let product ← word? (width * size.height)
  let divisor ← word? (max size.width 1)
  quotient? product divisor

end ImageSize

end EntityDiagram
