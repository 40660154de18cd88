import EntityDiagram.Text.Utf8
import Mathlib.Tactic.IntervalCases

/-! # Bytes of text

The bytes of a character are read back as that character, whatever bytes follow. So text survives
its encoding, whether the bytes are read strictly or leniently.
-/

namespace EntityDiagram.Text

variable {n value more : Nat} {first last : UInt8} {bytes rest : List UInt8}

/-! ## Leading bytes -/

theorem lead?_two (low : 0xC2 ≤ n) (high : n ≤ 0xDF) :
    lead? (UInt8.ofNat n) = some ⟨1, 0x80, 0xBF, n - 0xC0⟩ := by
  interval_cases n <;> rfl

theorem lead?_three (low : 0xE0 ≤ n) (high : n ≤ 0xEF) :
    lead? (UInt8.ofNat n) =
      some ⟨2, if n = 0xE0 then 0xA0 else 0x80, if n = 0xED then 0x9F else 0xBF, n - 0xE0⟩ := by
  interval_cases n <;> rfl

theorem lead?_four (low : 0xF0 ≤ n) (high : n ≤ 0xF4) :
    lead? (UInt8.ofNat n) =
      some ⟨3, if n = 0xF0 then 0x90 else 0x80, if n = 0xF4 then 0x8F else 0xBF, n - 0xF0⟩ := by
  interval_cases n <;> rfl

/-! ## Continuation bytes -/

theorem toNat_ofNat_byte (small : n < 256) : (UInt8.ofNat n).toNat = n := by
  rw [UInt8.toNat_ofNat']
  exact Nat.mod_eq_of_lt small

theorem continuation_cons (small : n < 256) (low : first.toNat ≤ n) (high : n ≤ last.toNat) :
    continuation (more + 1) first last value (UInt8.ofNat n :: bytes) =
      continuation more 0x80 0xBF (value * 64 + (n - 0x80)) bytes := by
  have same := toNat_ofNat_byte small
  have within : (first ≤ UInt8.ofNat n && UInt8.ofNat n ≤ last) = true := by
    rw [Bool.and_eq_true, decide_eq_true_eq, decide_eq_true_eq, UInt8.le_iff_toNat_le,
      UInt8.le_iff_toNat_le, same]
    exact ⟨low, high⟩
  rw [continuation, if_pos within, same]

/-- A byte of the usual range carries six bits. -/
theorem continuation_six (n : Nat) :
    continuation (more + 1) 0x80 0xBF value (UInt8.ofNat (n % 64 + 128) :: bytes) =
      continuation more 0x80 0xBF (value * 64 + n % 64) bytes := by
  have bound := Nat.mod_lt n (by decide : 0 < 64)
  have low : (0x80 : UInt8).toNat ≤ n % 64 + 128 := Nat.le_add_left ..
  have high : n % 64 + 128 ≤ (0xBF : UInt8).toNat := by
    change n % 64 + 128 ≤ 191
    omega
  rw [continuation_cons (by omega) low high, Nat.add_sub_cancel]

/-! ## Characters -/

theorem decodeStep_of_lead {start : Lead} (large : 0x80 ≤ n) (small : n < 256)
    (lead : lead? (UInt8.ofNat n) = some start)
    (read : continuation start.more start.first start.last start.bits bytes = (value, 0, rest)) :
    decodeStep (UInt8.ofNat n) bytes = (some (Char.ofNat value), rest) := by
  have long : ¬UInt8.ofNat n < 0x80 := by
    rw [UInt8.lt_iff_toNat_lt, toNat_ofNat_byte small]
    exact Nat.not_lt.mpr large
  rw [decodeStep, if_neg long, lead]
  simp only [read]

section Sizes

variable {v : Nat}

theorem decodeStep_one (high : v ≤ 0x7F) :
    decodeStep (UInt8.ofNat v) rest = (some (Char.ofNat v), rest) := by
  have ascii : UInt8.ofNat v < 0x80 := by
    rw [UInt8.lt_iff_toNat_lt, toNat_ofNat_byte (by omega)]
    change v < 128
    omega
  rw [decodeStep, if_pos ascii, toNat_ofNat_byte (by omega)]

theorem decodeStep_two (low : 0x7F < v) (high : v ≤ 0x7FF) :
    decodeStep (UInt8.ofNat (v / 64 % 32 + 192)) (UInt8.ofNat (v % 64 + 128) :: rest) =
      (some (Char.ofNat v), rest) := by
  refine decodeStep_of_lead (by omega) (by omega)
    (@lead?_two (v / 64 % 32 + 192) (by omega) (by omega)) ?_
  have value : (v / 64 % 32 + 192 - 0xC0) * 64 + v % 64 = v := by omega
  refine (continuation_six v).trans ?_
  rw [value]
  rfl

/-- After two of the leading bytes the range of the second one is smaller, which leaves out overlong
forms and surrogates, and no character. -/
theorem decodeStep_three (low : 0x7FF < v) (high : v ≤ 0xFFFF) (valid : v < 0xD800 ∨ 0xDFFF < v) :
    decodeStep (UInt8.ofNat (v / 4096 % 16 + 224))
        (UInt8.ofNat (v / 64 % 64 + 128) :: UInt8.ofNat (v % 64 + 128) :: rest) =
      (some (Char.ofNat v), rest) := by
  refine decodeStep_of_lead (by omega) (by omega)
    (@lead?_three (v / 4096 % 16 + 224) (by omega) (by omega)) ?_
  have value : ((v / 4096 % 16 + 224 - 0xE0) * 64 + (v / 64 % 64 + 128 - 0x80)) * 64 + v % 64 =
      v := by omega
  refine (continuation_cons (by omega) ?_ ?_).trans ((continuation_six v).trans ?_)
  · change (if v / 4096 % 16 + 224 = 0xE0 then (0xA0 : UInt8) else 0x80).toNat ≤ _
    split
    · change 160 ≤ _
      omega
    · exact Nat.le_add_left ..
  · change _ ≤ (if v / 4096 % 16 + 224 = 0xED then (0x9F : UInt8) else 0xBF).toNat
    split
    · change _ ≤ 159
      omega
    · change _ ≤ 191
      omega
  · rw [value]
    rfl

theorem decodeStep_four (low : 0xFFFF < v) (high : v < 0x110000) :
    decodeStep (UInt8.ofNat (v / 262144 % 8 + 240))
        (UInt8.ofNat (v / 4096 % 64 + 128) :: UInt8.ofNat (v / 64 % 64 + 128) ::
          UInt8.ofNat (v % 64 + 128) :: rest) =
      (some (Char.ofNat v), rest) := by
  refine decodeStep_of_lead (by omega) (by omega)
    (@lead?_four (v / 262144 % 8 + 240) (by omega) (by omega)) ?_
  have value : (((v / 262144 % 8 + 240 - 0xF0) * 64 + (v / 4096 % 64 + 128 - 0x80)) * 64 +
      v / 64 % 64) * 64 + v % 64 = v := by omega
  refine (continuation_cons (by omega) ?_ ?_).trans
    ((continuation_six (v / 64)).trans ((continuation_six v).trans ?_))
  · change (if v / 262144 % 8 + 240 = 0xF0 then (0x90 : UInt8) else 0x80).toNat ≤ _
    split
    · change 144 ≤ _
      omega
    · exact Nat.le_add_left ..
  · change _ ≤ (if v / 262144 % 8 + 240 = 0xF4 then (0x8F : UInt8) else 0xBF).toNat
    split
    · change _ ≤ 143
      omega
    · change _ ≤ 191
      omega
  · rw [value]
    rfl

end Sizes

/-- The bytes of a character are read as it, whatever follows. -/
theorem decodeStep_encodeChar (c : Char) (rest : List UInt8) :
    ∃ b bytes, encodeChar c ++ rest = b :: bytes ∧ decodeStep b bytes = (some c, rest) := by
  have valid : c.toNat < 0xD800 ∨ 0xDFFF < c.toNat ∧ c.toNat < 0x110000 := c.valid
  have code : c.val.toNat = c.toNat := rfl
  have back : (some c, rest) = (some (Char.ofNat c.toNat), rest) := by rw [Char.ofNat_toNat]
  rw [back, encodeChar, String.utf8EncodeChar, code]
  split
  · next one => exact ⟨_, _, rfl, decodeStep_one one⟩
  · next high =>
    split
    · next two => exact ⟨_, _, rfl, decodeStep_two (by omega) two⟩
    · split
      · next three => exact ⟨_, _, rfl, decodeStep_three (by omega) three (by omega)⟩
      · next four => exact ⟨_, _, rfl, decodeStep_four (by omega) (by omega)⟩

/-! ## Texts -/

theorem exists_step (c : Char) (cs : List Char) :
    ∃ b bytes, encode (c :: cs) = b :: bytes ∧ decodeStep b bytes = (some c, encode cs) := by
  rw [encode, List.flatMap_cons]
  exact decodeStep_encodeChar c (encode cs)

theorem decode?_encode (cs : List Char) : decode? (encode cs) = some cs := by
  induction cs with
  | nil => rw [encode, List.flatMap_nil, decode?]
  | cons c rest ih =>
    obtain ⟨b, bytes, split, step⟩ := exists_step c rest
    rw [split, decode?]
    split
    · next read =>
      cases read.symm.trans step
      rw [ih]
      rfl
    · next read => cases read.symm.trans step

theorem decodeLossy_encode (cs : List Char) : decodeLossy (encode cs) = cs := by
  induction cs with
  | nil => rw [encode, List.flatMap_nil, decodeLossy]
  | cons c rest ih =>
    obtain ⟨b, bytes, split, step⟩ := exists_step c rest
    rw [split, decodeLossy]
    split
    next read =>
      cases read.symm.trans step
      rw [ih]
      rfl

end EntityDiagram.Text
