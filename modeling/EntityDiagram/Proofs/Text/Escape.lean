import EntityDiagram.Drawing.Name
import EntityDiagram.Proofs.Text.Run
import EntityDiagram.Text.Markup

/-! # Undoing escapes

Readers for what the printers escape: a quoted name ends at the first quote that is not escaped, a
text inside markup at the next tag. Whatever the text holds, each reader gives it back with all that
follows it, and items that one reader takes can be read one after the other.
-/

namespace EntityDiagram

/-! ## Quoted names -/

namespace Drawing

/-- The text before the first quote that is not escaped, and what follows that quote. -/
def unquote? : List Char → Option (List Char × List Char)
  | [] => none
  | '"' :: rest => some ([], rest)
  | '\\' :: c :: rest => (unquote? rest).map fun (name, rest) => (c :: name, rest)
  | c :: rest => (unquote? rest).map fun (name, rest) => (c :: name, rest)

def name? : List Char → Option (String × List Char)
  | '"' :: rest => (unquote? rest).map fun (name, rest) => (String.ofList name, rest)
  | _ => none

theorem unquote?_escape (name rest : List Char) :
    unquote? (name.flatMap escapeNameChar ++ '"' :: rest) = some (name, rest) := by
  induction name with
  | nil => rfl
  | cons c name ih =>
    rw [List.flatMap_cons, List.append_assoc, escapeNameChar]
    by_cases backslash : c = '\\'
    · subst backslash
      simp [unquote?, ih]
    · by_cases quote : c = '"'
      · subst quote
        simp [unquote?, ih]
      · simp [unquote?, ih, backslash, quote]

theorem name?_quotedName (name : String) (rest : List Char) :
    name? (quotedName name ++ rest) = some (name, rest) := by
  rw [quotedName, List.append_assoc]
  change (unquote? (name.toList.flatMap escapeNameChar ++ '"' :: rest)).map _ = _
  simp only [unquote?_escape, Option.map_some, String.ofList_toList]

end Drawing

/-! ## Text inside markup -/

namespace Text

def unescapeMarkup : List Char → List Char
  | '&' :: 'a' :: 'm' :: 'p' :: ';' :: rest => '&' :: unescapeMarkup rest
  | '&' :: 'l' :: 't' :: ';' :: rest => '<' :: unescapeMarkup rest
  | '&' :: 'g' :: 't' :: ';' :: rest => '>' :: unescapeMarkup rest
  | '&' :: 'q' :: 'u' :: 'o' :: 't' :: ';' :: rest => '"' :: unescapeMarkup rest
  | c :: rest => c :: unescapeMarkup rest
  | [] => []

/-- The text up to the next tag, without escapes, and what follows from there. -/
def plainText (cs : List Char) : String × List Char :=
  (String.ofList (unescapeMarkup (cs.takeWhile (· != '<'))), cs.dropWhile (· != '<'))

theorem unescapeMarkup_cons {c : Char} (plain : c ≠ '&') (rest : List Char) :
    unescapeMarkup (c :: rest) = c :: unescapeMarkup rest := by
  rw [unescapeMarkup.eq_def]
  split <;> simp_all

theorem escapeMarkupChar_of_plain {c : Char} (plain : c ∉ ['&', '<', '>', '"']) :
    escapeMarkupChar c = [c] := by
  simp only [List.mem_cons, List.not_mem_nil, or_false, not_or] at plain
  obtain ⟨amp, less, greater, quote⟩ := plain
  rw [escapeMarkupChar, if_neg amp, if_neg less, if_neg greater, if_neg quote]

theorem escapeMarkup_of_plain {s : String} (plain : ∀ c ∈ s.toList, c ∉ ['&', '<', '>', '"']) :
    escapeMarkup s = s.toList := by
  have single : s.toList.map escapeMarkupChar = s.toList.map fun c => [c] :=
    List.map_congr_left fun c inside => escapeMarkupChar_of_plain (plain c inside)
  rw [escapeMarkup, List.flatMap_def, single, ← List.flatMap_def, List.flatMap_singleton']

theorem unescapeMarkup_escapeMarkup (s : String) : unescapeMarkup (escapeMarkup s) = s.toList := by
  rw [escapeMarkup]
  induction s.toList with
  | nil => rfl
  | cons c cs ih =>
    rw [List.flatMap_cons]
    by_cases special : c ∈ ['&', '<', '>', '"']
    · simp only [List.mem_cons, List.not_mem_nil, or_false] at special
      rcases special with rfl | rfl | rfl | rfl <;> exact congrArg (List.cons _) ih
    · have amp : c ≠ '&' := fun amp => special (amp ▸ List.mem_cons_self ..)
      rw [escapeMarkupChar_of_plain special, List.singleton_append, unescapeMarkup_cons amp, ih]

/-- A character of an escaped text is one of the text or one that an escape is spelled with. -/
theorem mem_escapeMarkup {s : String} {c : Char} (member : c ∈ escapeMarkup s) :
    (c ∈ s.toList ∧ c ∉ ['<', '>', '"']) ∨ c ∈ "&ampltgquo;".toList := by
  obtain ⟨d, inside, written⟩ := List.mem_flatMap.mp member
  by_cases special : d ∈ ['&', '<', '>', '"']
  · have spelled : (escapeMarkupChar d).all ("&ampltgquo;".toList.contains ·) = true := by
      simp only [List.mem_cons, List.not_mem_nil, or_false] at special
      rcases special with rfl | rfl | rfl | rfl <;> decide
    exact .inr (List.contains_iff_mem.mp (List.all_eq_true.mp spelled c written))
  · rw [escapeMarkupChar_of_plain special, List.mem_singleton] at written
    rw [List.mem_cons, not_or] at special
    exact .inl (written ▸ ⟨inside, special.2⟩)

theorem not_mem_escapeMarkup (s : String) : '<' ∉ escapeMarkup s := by
  intro member
  rcases mem_escapeMarkup member with ⟨-, plain⟩ | spelled
  · exact plain (by decide)
  · exact absurd spelled (by decide)

theorem plainText_escapeMarkup (s : String) (rest : List Char) :
    plainText (escapeMarkup s ++ '<' :: rest) = (s, '<' :: rest) := by
  have plain : ∀ c ∈ escapeMarkup s, (c != '<') = true := fun c member =>
    bne_iff_ne.mpr fun tag => not_mem_escapeMarkup s (tag ▸ member)
  have tag : Stops (· != '<') ('<' :: rest) := stops_cons (by decide)
  rw [plainText, takeWhile_run plain tag, dropWhile_run plain tag, unescapeMarkup_escapeMarkup,
    String.ofList_toList]

/-! ## One item after the other -/

/-- The items that `item?` reads one after the other, as long as each takes some of the text, and
what is left. -/
def many {α : Type} (item? : List Char → Option (α × List Char)) (cs : List Char) :
    List α × List Char :=
  match item? cs with
  | none => ([], cs)
  | some (item, rest) =>
    if rest.length < cs.length then
      let (items, last) := many item? rest
      (item :: items, last)
    else ([], cs)
termination_by cs.length

theorem many_flatMap {α β : Type} {item? : List Char → Option (α × List Char)}
    {print : β → List Char} {value : β → α}
    (reads : ∀ b rest, item? (print b ++ rest) = some (value b, rest))
    (nonempty : ∀ b, print b ≠ []) {last : List Char} (stop : item? last = none) (bs : List β) :
    many item? (bs.flatMap print ++ last) = (bs.map value, last) := by
  induction bs with
  | nil => rw [List.flatMap_nil, List.nil_append, many, stop]; rfl
  | cons b bs ih =>
    have shorter : (bs.flatMap print ++ last).length <
        (print b ++ (bs.flatMap print ++ last)).length := by
      have some := List.length_pos_iff.mpr (nonempty b)
      simp only [List.length_append]
      omega
    rw [List.flatMap_cons, List.append_assoc, many, reads]
    simp only [if_pos shorter, ih, List.map_cons]

end Text

end EntityDiagram
