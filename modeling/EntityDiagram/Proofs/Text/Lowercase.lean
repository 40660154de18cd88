import EntityDiagram.Text.Lowercase
import EntityDiagram.Text.Split
import Mathlib.Data.List.Infix

/-! # Words in lower case

The lower case of an ASCII character is what it is in ASCII. What any other character becomes is
outside of ASCII, but for two: the Kelvin sign becomes a `k`, and the capital I with a dot above
becomes an `i` with the dot behind it. So a word that has no `k` and does not end in `i` is found in
the lower case of a text exactly where it stands in the text, up to the case of ASCII letters.
-/

namespace EntityDiagram.Text

/-! ## Single characters -/

/-- What can become of a character. -/
inductive Lowered (c : Char) : List Char → Prop
  | ascii (low : c.toNat < 0x80) : Lowered c [c.toLower]
  | dotted (same : c = 'İ') : Lowered c ['i', '\u0307']
  | kelvin (same : c = '\u212A') : Lowered c ['k']
  | other {d : Char} (high : 0x80 ≤ c.toNat) (left : 0x80 ≤ d.toNat) : Lowered c [d]

theorem Lowered.eq_of_low {c : Char} {lower : List Char} (lowered : Lowered c lower)
    (low : c.toNat < 0x80) : lower = [c.toLower] := by
  cases lowered with
  | ascii => rfl
  | dotted same => exact absurd (same ▸ low) (by decide)
  | kelvin same => exact absurd (same ▸ low) (by decide)
  | other high => omega

theorem toLower_of_not_capital {c : Char} (other : ¬(0x41 ≤ c.toNat ∧ c.toNat ≤ 0x5A)) :
    c.toLower = c :=
  dif_neg other

theorem toLower_of_high {c : Char} (high : 0x80 ≤ c.toNat) : c.toLower = c :=
  toLower_of_not_capital (by omega)

theorem toNat_toLower_of_capital {c : Char} (capital : 0x41 ≤ c.toNat ∧ c.toNat ≤ 0x5A) :
    c.toLower.toNat = c.toNat + 32 := by
  have moved : c.toLower.val = c.val + 32 := congrArg Char.val (dif_pos capital)
  have last : c.val.toNat ≤ 0x5A := capital.2
  change c.toLower.val.toNat = c.val.toNat + 32
  rw [moved, UInt32.toNat_add]
  change (c.val.toNat + 32) % 4294967296 = _
  omega

/-- The capitals of ASCII are the first run. -/
theorem capitalRuns_eq : capitalRuns = ⟨0x41, 0x5A, 1, 32⟩ :: capitalRuns.tail := rfl

/-- All other runs are outside of ASCII, and only the Kelvin sign leads into it. -/
theorem run_of_mem_tail : ∀ run ∈ capitalRuns.tail, 0x80 ≤ run.first ∧
    ((run.first = 0x212A ∧ run.last = 0x212A ∧ run.shift = -8383) ∨
      0x80 ≤ run.first + run.shift ∧ (run.last + run.shift < 0xD800 ∨
        0xDFFF < run.first + run.shift ∧ run.last + run.shift < 0x110000)) := by
  decide +kernel

theorem bounds_of_covers {run : CaseRun} {n : Nat} (covers : run.covers n = true) :
    run.first ≤ n ∧ n ≤ run.last := by
  simp only [CaseRun.covers, Bool.and_eq_true, decide_eq_true_eq] at covers
  exact covers.1

theorem lowercaseChar_of_low {c : Char} (low : c.toNat < 0x80) :
    lowercaseChar c = [c.toLower] := by
  have others : capitalRuns.tail.find? (·.covers c.toNat) = none := by
    rw [List.find?_eq_none]
    intro run member covers
    have outside := (run_of_mem_tail run member).1
    have first := (bounds_of_covers covers).1
    omega
  have undotted : c ≠ 'İ' := by
    rintro rfl
    exact absurd low (by decide)
  rw [lowercaseChar, if_neg undotted, capitalRuns_eq, List.find?_cons, others]
  by_cases capital : 0x41 ≤ c.toNat ∧ c.toNat ≤ 0x5A
  · have covers : CaseRun.covers ⟨0x41, 0x5A, 1, 32⟩ c.toNat = true := by
      simp [CaseRun.covers, capital, Nat.mod_one]
    have code := toNat_toLower_of_capital capital
    have moved : ((c.toNat : Int) + 32).toNat = c.toLower.toNat := by omega
    rw [covers]
    simp only [moved, Char.ofNat_toNat]
  · have covers : CaseRun.covers ⟨0x41, 0x5A, 1, 32⟩ c.toNat = false :=
      Bool.eq_false_iff.mpr fun covers => capital (bounds_of_covers covers)
    rw [covers, toLower_of_not_capital capital]

/-- A run of the others moves a character to another one outside of ASCII, but for the Kelvin
sign. -/
theorem lowered_of_covers {c : Char} {run : CaseRun} (member : run ∈ capitalRuns.tail)
    (covers : run.covers c.toNat = true) :
    Lowered c [Char.ofNat (c.toNat + run.shift).toNat] := by
  obtain ⟨first, last⟩ := bounds_of_covers covers
  obtain ⟨outside, ⟨from_kelvin, to_kelvin, shift⟩ | ⟨left, valid⟩⟩ := run_of_mem_tail run member
  · have code : c.toNat = 0x212A := by omega
    rw [code, shift]
    exact .kelvin (Char.toNat_inj.mp code)
  · have valid : (c.toNat + run.shift).toNat.isValidChar := by
      rw [Nat.isValidChar]
      omega
    have code : (Char.ofNat (c.toNat + run.shift).toNat).toNat = (c.toNat + run.shift).toNat := by
      rw [Char.ofNat, dif_pos valid]
      rfl
    exact .other (by omega) (by omega)

theorem lowered_lowercaseChar (c : Char) : Lowered c (lowercaseChar c) := by
  rcases Nat.lt_or_ge c.toNat 0x80 with low | high
  · rw [lowercaseChar_of_low low]
    exact .ascii low
  · rw [lowercaseChar]
    split
    · next same => exact .dotted same
    · split
      · next run found =>
        have covers := List.find?_some found
        have member := List.mem_of_find?_eq_some found
        rw [capitalRuns_eq, List.mem_cons] at member
        rcases member with rfl | member
        · have last : c.toNat ≤ 0x5A := (bounds_of_covers covers).2
          omega
        · exact lowered_of_covers member covers
      · exact .other high high

/-- The sigma at the end of a word is the only letter whose surroundings matter, and no form of it
is in ASCII. -/
theorem lowercaseAfter_cons (before : List Char) (c : Char) (rest : List Char) :
    ∃ lower, Lowered c lower ∧
      lowercaseAfter before (c :: rest) = lower ++ lowercaseAfter (c :: before) rest := by
  rw [lowercaseAfter]
  split
  · next same =>
    refine ⟨_, ?_, rfl⟩
    rw [same]
    split
    · exact .other (by decide) (by decide)
    · exact .other (by decide) (by decide)
  · exact ⟨_, lowered_lowercaseChar c, rfl⟩

/-! ## Words -/

theorem occurs_iff_isInfix {word cs : List Char} : occurs word cs = true ↔ word <:+: cs := by
  induction cs with
  | nil => rw [occurs, List.isEmpty_iff, List.infix_nil]
  | cons c rest ih =>
    rw [occurs, Bool.or_eq_true, List.isPrefixOf_iff_prefix, List.infix_cons_iff, ih]

variable {word cs : List Char} {c : Char}

theorem eq_nil_of_prefix_cons (absent : c ∉ word) {rest : List Char} (begins : word <+: c :: rest) :
    word = [] := by
  rcases List.prefix_cons_iff.mp begins with none | ⟨more, rfl, -⟩
  · exact none
  · exact absurd (List.mem_cons_self ..) absent

/-- A word stands on one side of a character that it does not have. -/
theorem infix_append_cons_iff (absent : c ∉ word) (before after : List Char) :
    word <:+: before ++ c :: after ↔ word <:+: before ∨ word <:+: after := by
  constructor
  · intro stands
    rcases List.infix_append_iff.mp stands with first | second | ⟨start, tail, rfl, ends, begins⟩
    · exact .inl first
    · rcases List.infix_cons_iff.mp second with begins | behind
      · rw [eq_nil_of_prefix_cons absent begins]
        exact .inr List.nil_infix
      · exact .inr behind
    · rw [eq_nil_of_prefix_cons (fun member => absent (List.mem_append_right _ member)) begins,
        List.append_nil]
      exact .inl ends.isInfix
  · rintro (first | second)
    · exact first.trans (List.prefix_append ..).isInfix
    · exact second.trans ((List.suffix_cons c after).trans (List.suffix_append ..)).isInfix

/-- A word that no characters but its own letters, large or small, can become. -/
structure Distinct (word : List Char) : Prop where
  ascii : ∀ c ∈ word, c.toNat < 0x80
  no_k : 'k' ∉ word
  last : word.getLast? ≠ some 'i'

theorem Distinct.tail {c : Char} {word : List Char} (distinct : Distinct (c :: word)) :
    Distinct word where
  ascii d member := distinct.ascii d (List.mem_cons_of_mem c member)
  no_k member := distinct.no_k (List.mem_cons_of_mem c member)
  last ends := by
    refine distinct.last ?_
    rw [List.getLast?_cons, ends]
    rfl

theorem Distinct.not_mem (distinct : Distinct word) (high : 0x80 ≤ c.toNat) : c ∉ word :=
  fun member => Nat.not_lt.mpr high (distinct.ascii c member)

theorem Distinct.infix_cons_iff (distinct : Distinct word) (filled : word ≠ [])
    (high : 0x80 ≤ c.toNat) (rest : List Char) : word <:+: c :: rest ↔ word <:+: rest := by
  refine (infix_append_cons_iff (distinct.not_mem high) [] rest).trans (or_iff_right ?_)
  exact fun nothing => filled (List.infix_nil.mp nothing)

/-- A word does not begin in what a character outside of ASCII becomes. -/
theorem Distinct.not_prefix (distinct : Distinct word) (filled : word ≠ []) {lower : List Char}
    (lowered : Lowered c lower) (high : 0x80 ≤ c.toNat) (rest : List Char) :
    ¬word <+: lower ++ rest := by
  intro begins
  obtain ⟨first, more, rfl⟩ := List.exists_cons_of_ne_nil filled
  have ascii := distinct.ascii first (List.mem_cons_self ..)
  cases lowered with
  | ascii low => omega
  | dotted =>
    obtain ⟨rfl, behind⟩ := List.cons_prefix_cons.mp begins
    cases more with
    | nil => exact distinct.last rfl
    | cons second others =>
      obtain ⟨rfl, -⟩ := List.cons_prefix_cons.mp behind
      exact absurd (distinct.tail.ascii _ (List.mem_cons_self ..)) (by decide)
  | kelvin =>
    obtain ⟨rfl, -⟩ := List.cons_prefix_cons.mp begins
    exact distinct.no_k (List.mem_cons_self ..)
  | other _ left =>
    obtain ⟨rfl, -⟩ := List.cons_prefix_cons.mp begins
    omega

/-- Nor does it stand in that. -/
theorem Distinct.infix_append_iff (distinct : Distinct word) (filled : word ≠ [])
    {lower : List Char} (lowered : Lowered c lower) (high : 0x80 ≤ c.toNat) (rest : List Char) :
    word <:+: lower ++ rest ↔ word <:+: rest := by
  have start := distinct.not_prefix filled lowered high rest
  cases lowered with
  | ascii low => omega
  | dotted =>
    change ¬word <+: 'i' :: '\u0307' :: rest at start
    change word <:+: 'i' :: '\u0307' :: rest ↔ _
    rw [List.infix_cons_iff, or_iff_right start, distinct.infix_cons_iff filled (by decide)]
  | kelvin => exact List.infix_cons_iff.trans (or_iff_right start)
  | other => exact List.infix_cons_iff.trans (or_iff_right start)

theorem prefix_lowercaseAfter_iff (distinct : Distinct word) (before cs : List Char) :
    word <+: lowercaseAfter before cs ↔ word <+: cs.map Char.toLower := by
  induction cs generalizing before word with
  | nil => rfl
  | cons d rest ih =>
    obtain ⟨lower, lowered, split⟩ := lowercaseAfter_cons before d rest
    rw [split, List.map_cons]
    cases word with
    | nil => exact iff_of_true List.nil_prefix List.nil_prefix
    | cons c more =>
      rcases Nat.lt_or_ge d.toNat 0x80 with low | high
      · rw [lowered.eq_of_low low, List.singleton_append, List.cons_prefix_cons,
          List.cons_prefix_cons, ih distinct.tail]
      · refine iff_of_false (distinct.not_prefix nofun lowered high _) ?_
        rw [toLower_of_high high]
        exact fun begins => List.cons_ne_nil _ _
          (eq_nil_of_prefix_cons (distinct.not_mem high) begins)

theorem infix_lowercaseAfter_iff (distinct : Distinct word) (filled : word ≠ [])
    (before cs : List Char) :
    word <:+: lowercaseAfter before cs ↔ word <:+: cs.map Char.toLower := by
  induction cs generalizing before with
  | nil => rfl
  | cons d rest ih =>
    have start := prefix_lowercaseAfter_iff distinct before (d :: rest)
    obtain ⟨lower, lowered, split⟩ := lowercaseAfter_cons before d rest
    rw [split, List.map_cons] at start ⊢
    rcases Nat.lt_or_ge d.toNat 0x80 with low | high
    · rw [lowered.eq_of_low low, List.singleton_append] at start ⊢
      rw [List.infix_cons_iff, List.infix_cons_iff, start, ih]
    · rw [distinct.infix_append_iff filled lowered high, ih, toLower_of_high high,
        distinct.infix_cons_iff filled high]

/-! ## Words in any case -/

/-- `word` stands somewhere in `cs`, up to the case of ASCII letters. -/
def Mentions (word cs : List Char) : Prop :=
  ∃ part, part <:+: cs ∧ part.map Char.toLower = word.map Char.toLower

theorem mentions_iff : Mentions word cs ↔ word.map Char.toLower <:+: cs.map Char.toLower := by
  rw [List.infix_map_iff]
  exact exists_congr fun part => and_congr_right fun _ => eq_comm

instance (word cs : List Char) : Decidable (Mentions word cs) := decidable_of_iff' _ mentions_iff

theorem occurs_lowercase_iff (distinct : Distinct word) (filled : word ≠ [])
    (small : word.map Char.toLower = word) :
    occurs word (lowercase cs) = true ↔ Mentions word cs := by
  rw [occurs_iff_isInfix, lowercase, infix_lowercaseAfter_iff distinct filled, mentions_iff, small]

theorem mentions_append_cons_iff (distinct : Distinct word) (small : word.map Char.toLower = word)
    (high : 0x80 ≤ c.toNat) (before after : List Char) :
    Mentions word (before ++ c :: after) ↔ Mentions word before ∨ Mentions word after := by
  rw [mentions_iff, mentions_iff, mentions_iff, List.map_append, List.map_cons,
    toLower_of_high high, small, infix_append_cons_iff (distinct.not_mem high)]

end EntityDiagram.Text
