/-! # Text as bytes

Encoding always succeeds. Bytes are read back in two ways: strictly, where any ill-formed sequence
fails, and leniently, where each longest ill-formed start of a character becomes one replacement
character.
-/

namespace EntityDiagram.Text

def encodeChar (c : Char) : List UInt8 := String.utf8EncodeChar c

def encode (cs : List Char) : List UInt8 := cs.flatMap encodeChar

/-- What a leading byte asks for: how many bytes follow, the range of the first of them, and the
bits that the leading byte itself carries. -/
structure Lead where
  more : Nat
  first : UInt8
  last : UInt8
  bits : Nat

/-- The ranges leave out overlong forms, surrogates and code points past the last one. -/
def lead? (b : UInt8) : Option Lead :=
  if 0xC2 ≤ b && b ≤ 0xDF then some ⟨1, 0x80, 0xBF, b.toNat - 0xC0⟩
  else if b = 0xE0 then some ⟨2, 0xA0, 0xBF, 0⟩
  else if b = 0xED then some ⟨2, 0x80, 0x9F, 0xD⟩
  else if 0xE1 ≤ b && b ≤ 0xEF then some ⟨2, 0x80, 0xBF, b.toNat - 0xE0⟩
  else if b = 0xF0 then some ⟨3, 0x90, 0xBF, 0⟩
  else if 0xF1 ≤ b && b ≤ 0xF3 then some ⟨3, 0x80, 0xBF, b.toNat - 0xF0⟩
  else if b = 0xF4 then some ⟨3, 0x80, 0x8F, 4⟩
  else none

/-- Takes up to `more` continuation bytes, the first of them between `first` and `last`. The result
is the value so far, how many bytes were missing, and what is left. -/
def continuation : Nat → UInt8 → UInt8 → Nat → List UInt8 → Nat × Nat × List UInt8
  | 0, _, _, value, bytes => (value, 0, bytes)
  | more + 1, _, _, value, [] => (value, more + 1, [])
  | more + 1, first, last, value, b :: bytes =>
    if first ≤ b && b ≤ last then
      continuation more 0x80 0xBF (value * 64 + (b.toNat - 0x80)) bytes
    else (value, more + 1, b :: bytes)

/-- The next character, or none for an ill-formed sequence, and the bytes after it. -/
def decodeStep (b : UInt8) (bytes : List UInt8) : Option Char × List UInt8 :=
  if b < 0x80 then (some (Char.ofNat b.toNat), bytes)
  else
    match lead? b with
    | none => (none, bytes)
    | some start =>
      match continuation start.more start.first start.last start.bits bytes with
      | (value, 0, rest) => (some (Char.ofNat value), rest)
      | (_, _ + 1, rest) => (none, rest)

theorem continuation_length (more : Nat) (first last : UInt8) (value : Nat) (bytes : List UInt8) :
    (continuation more first last value bytes).2.2.length ≤ bytes.length := by
  induction more generalizing first last value bytes with
  | zero => simp [continuation]
  | succ more ih =>
    cases bytes with
    | nil => simp [continuation]
    | cons b bytes =>
      simp only [continuation]
      split
      · exact Nat.le_succ_of_le (ih ..)
      · simp

theorem decodeStep_length (b : UInt8) (bytes : List UInt8) :
    (decodeStep b bytes).2.length ≤ bytes.length := by
  unfold decodeStep
  split
  · simp
  · split
    · simp
    · next start _ =>
      have bound := continuation_length start.more start.first start.last start.bits bytes
      split <;> simp_all

theorem length_lt_of_decodeStep {b : UInt8} {bytes rest : List UInt8} {c? : Option Char}
    (step : decodeStep b bytes = (c?, rest)) : rest.length < (b :: bytes).length := by
  have bound := decodeStep_length b bytes
  rw [step] at bound
  exact Nat.lt_succ_of_le bound

def decode? : List UInt8 → Option (List Char)
  | [] => some []
  | b :: bytes =>
    match _step : decodeStep b bytes with
    | (some c, rest) => (decode? rest).map (c :: ·)
    | (none, _) => none
termination_by bytes => bytes.length
decreasing_by exact length_lt_of_decodeStep _step

def decodeLossy : List UInt8 → List Char
  | [] => []
  | b :: bytes =>
    match _step : decodeStep b bytes with
    | (c?, rest) => c?.getD '\ufffd' :: decodeLossy rest
termination_by bytes => bytes.length
decreasing_by exact length_lt_of_decodeStep _step

end EntityDiagram.Text
