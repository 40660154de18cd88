import EntityDiagram.Json.Printer
import EntityDiagram.Proofs.Json.Grammar

/-! # What is printed

The printer writes one of the texts that stand for a value, so the reader gives the value back. The
values are those that have a text of their own in the format: strings and keys have a text, and
numbers are whole.
-/

namespace EntityDiagram

namespace Json

/-- Strings and keys have a text, numbers are whole, and dates and times do not occur. -/
inductive Plain : Value → Prop
  | null : Plain .null
  | bool (b : Bool) : Plain (.bool b)
  | integer (n : Int) : Plain (.integer n)
  | string (cs : List Char) : Plain (.string (some cs))
  | array {vs : List Value} (items : ∀ v ∈ vs, Plain v) : Plain (.array vs)
  | table {ms : List (Option (List Char) × Value)} (keys : ∀ m ∈ ms, ∃ key, m.1 = some key)
      (values : ∀ m ∈ ms, Plain m.2) : Plain (.table ms)

theorem Plain.record {members : List (String × Value)} (plain : ∀ m ∈ members, Plain m.2) :
    Plain (.record members) := by
  refine .table (fun m member => ?_) fun m member => ?_
  · obtain ⟨field, -, rfl⟩ := List.mem_map.mp member
    exact ⟨_, rfl⟩
  · obtain ⟨field, listed, rfl⟩ := List.mem_map.mp member
    exact plain field listed

/-! ## Strings -/

theorem control_code : ∀ n < 0x20, Text.numeral? 16
    ['0', '0', Nat.digitChar (n / 16), Nat.digitChar (n % 16)] = some n := by
  decide

theorem charSpelled_escapeChar (c : Char) : CharSpelled c (escapeChar c) := by
  have short : ∀ mark, (mark, c) ∈ shortEscapes → CharSpelled c ['\\', mark] :=
    fun mark known => .char (.short known)
  rw [escapeChar]
  split
  · next same => exact short _ (by rw [same]; decide)
  · next unquoted =>
    split
    · next same => exact short _ (by rw [same]; decide)
    · next unescaped =>
      repeat' split
      · next same => exact short _ (by rw [same]; decide)
      · next same => exact short _ (by rw [same]; decide)
      · next same => exact short _ (by rw [same]; decide)
      · next same => exact short _ (by rw [same]; decide)
      · next same => exact short _ (by rw [same]; decide)
      · next control => exact .unit (.unit (control_code _ control))
      · next printed => exact .char (.plain (Nat.not_lt.mp printed) unquoted unescaped)

theorem each_escapeChar (cs : List Char) : Each CharSpelled cs (cs.flatMap escapeChar) := by
  induction cs with
  | nil => exact .nil
  | cons c rest ih => exact .cons (charSpelled_escapeChar c) ih

/-! ## Whole numbers -/

theorem decimal_toDigits (n : Nat) : Text.decimal (Nat.toDigits 10 n) = n := by
  have value := @Nat.ofDigitChars_ten_toDigits n
  rw [Nat.ofDigitChars_eq_foldl] at value
  rw [Text.decimal]
  simp only [Nat.mul_comm 10] at value
  exact value

theorem whole_toDigits (n : Nat) : Whole (Nat.toDigits 10 n) := by
  refine ⟨⟨Nat.toDigits_ne_nil, fun c member => ?_⟩, fun rest zero => ?_⟩
  · have digit := Nat.isDigit_of_mem_toDigits (by decide) (by decide) member
    simpa [Text.isDigit, Char.isDigit, Char.le_def] using digit
  · -- A first digit that is zero would make the number without its last digit zero.
    induction n using Nat.strongRecOn generalizing rest with
    | ind n ih =>
      rcases Nat.lt_or_ge n 10 with small | large
      · rw [Nat.toDigits_of_lt_base small] at zero
        exact (List.cons.inj zero).2.symm
      · obtain ⟨first, more, digits⟩ := List.exists_cons_of_ne_nil (@Nat.toDigits_ne_nil (n / 10) 10)
        rw [Nat.toDigits_of_base_le (by decide) large, digits] at zero
        obtain rfl := (List.cons.inj zero).1
        obtain rfl := ih (n / 10) (by omega) more digits
        have value := decimal_toDigits (n / 10)
        rw [digits] at value
        have positive : n / 10 = 0 := value.symm
        omega

theorem numberSpelled_toString (n : Int) : NumberSpelled (.whole n) (toString n).toList := by
  cases n with
  | ofNat m =>
    have spelled := NumberSpelled.parts false (whole_toDigits m) .absent .absent
    have text : (toString (Int.ofNat m)).toList = Nat.toDigits 10 m := by
      change (toString m).toList = _
      rw [Nat.toString_eq_ofList_toDigits, String.toList_ofList]
    rw [text]
    simpa [numeral, minus, decimal_toDigits] using spelled
  | negSucc m =>
    have spelled := NumberSpelled.parts true (whole_toDigits (m + 1)) .absent .absent
    have text : (toString (Int.negSucc m)).toList = '-' :: Nat.toDigits 10 (m + 1) := by
      change ("-" ++ toString (m + 1)).toList = _
      simp only [Nat.toString_eq_ofList_toDigits, String.toList_append, String.toList_ofList]
      rfl
    rw [text, Int.negSucc_eq]
    simpa [numeral, minus, decimal_toDigits] using spelled

/-! ## Values -/

theorem gap_nil : Gap [] := nofun

theorem spelled_itemsText {vs : List Value} (filled : vs ≠ [])
    (items : ∀ v ∈ vs, Spelled (.value v) (text v)) : Spelled (.items vs) (itemsText vs) := by
  induction vs with
  | nil => exact absurd rfl filled
  | cons v rest ih =>
    have first := items v (List.mem_cons_self ..)
    cases rest with
    | nil =>
      have spelled := Spelled.lastItem gap_nil first gap_nil
      rw [List.nil_append, List.append_nil] at spelled
      rwa [itemsText]
    | cons next others =>
      have behind := ih nofun fun w member => items w (List.mem_cons_of_mem v member)
      rw [itemsText]
      · exact .item gap_nil first gap_nil behind
      · exact nofun

theorem spelled_memberText {key? : Option (List Char)} {v : Value} (named : ∃ key, key? = some key)
    (value : Spelled (.value v) (text v)) :
    Spelled (.member (key?, v)) (stringText (key?.getD []) ++ ':' :: text v) := by
  obtain ⟨key, rfl⟩ := named
  have spelled : Spelled (.member (some key, v))
      ([] ++ '"' :: (key.flatMap escapeChar ++ '"' :: ([] ++ ':' :: ([] ++ text v)))) :=
    .member gap_nil (each_escapeChar key) gap_nil gap_nil value
  simp only [List.nil_append] at spelled
  simpa only [stringText, Option.getD_some, List.cons_append, List.append_assoc,
    List.nil_append] using spelled

theorem spelled_membersText {ms : List (Option (List Char) × Value)} (filled : ms ≠ [])
    (keys : ∀ m ∈ ms, ∃ key, m.1 = some key)
    (values : ∀ m ∈ ms, Spelled (.value m.2) (text m.2)) :
    Spelled (.members ms) (membersText ms) := by
  induction ms with
  | nil => exact absurd rfl filled
  | cons m rest ih =>
    obtain ⟨key?, v⟩ := m
    have first := spelled_memberText (keys _ (List.mem_cons_self ..)) (values _ (List.mem_cons_self ..))
    cases rest with
    | nil =>
      have spelled := Spelled.lastMember first gap_nil
      rw [List.append_nil] at spelled
      rwa [membersText]
    | cons next others =>
      have behind := ih nofun (fun n member => keys n (List.mem_cons_of_mem _ member))
        fun n member => values n (List.mem_cons_of_mem _ member)
      rw [membersText]
      · have spelled := Spelled.nextMember first gap_nil behind
        rwa [List.nil_append] at spelled
      · exact nofun

theorem spelled_text {v : Value} (plain : Plain v) : Spelled (.value v) (text v) := by
  induction plain with
  | null => exact .null
  | bool b =>
    cases b with
    | true => exact .yes
    | false => exact .no
  | integer n => exact .number (n := .whole n) (numberSpelled_toString n)
  | string cs =>
    have spelled : StringSpelled (some cs) (cs.flatMap escapeChar) := each_escapeChar cs
    exact .string spelled
  | @array vs items ih =>
    rw [text]
    cases vs with
    | nil => exact .emptyArray gap_nil
    | cons v rest => exact .array (spelled_itemsText nofun ih)
  | @table ms keys values ih =>
    rw [text]
    cases ms with
    | nil => exact .emptyTable gap_nil
    | cons m rest => exact .table (spelled_membersText nofun keys ih)

/-- What is printed for a value is read as that value. -/
theorem read?_render {v : Value} (plain : Plain v) : read? (render v) = some v := by
  refine read?_eq_some_iff.mpr ⟨[], text v, [], ?_, gap_nil, spelled_text plain, gap_nil⟩
  rw [render, String.toList_ofList, List.nil_append, List.append_nil]

end Json

end EntityDiagram
