import EntityDiagram.Proofs.Drawing.Label

/-! # Tokens of drawings

The text of a drawing is a row of tokens: identifiers, the arrow and some marks, with white space
that counts for nothing in between. A quoted identifier ends at the first quote that is not escaped
and a marked-up one at the angle bracket that closes its first, so the tokens of a text do not
depend on what the names in it hold.
-/

namespace EntityDiagram

open Text Drawing

/-- An identifier is kept as it is spelled, with its quotes or its angle brackets. -/
inductive Token where
  | id (spelling : List Char)
  | arrow
  | openBody
  | closeBody
  | openList
  | closeList
  | equals
  | comma
  | semicolon
  deriving DecidableEq, Repr

namespace Token

/-! ## Readers -/

/-- What stands up to the first quote that is not escaped, with that quote. -/
def toQuote? : List Char → Option (List Char × List Char)
  | [] => none
  | '"' :: rest => some (['"'], rest)
  | '\\' :: c :: rest => (toQuote? rest).map fun (spelling, rest) => ('\\' :: c :: spelling, rest)
  | c :: rest => (toQuote? rest).map fun (spelling, rest) => (c :: spelling, rest)

/-- How many angle brackets are open behind `c` when `depth` are open before it; nothing if `c`
closes one that is not among them. -/
def bracket? (depth : Nat) (c : Char) : Option Nat :=
  if c = '<' then some (depth + 1)
  else if c = '>' then if depth = 0 then none else some (depth - 1)
  else some depth

/-- What stands up to the angle bracket that closes one more than `depth`, with that bracket. -/
def toBracket? (depth : Nat) : List Char → Option (List Char × List Char)
  | [] => none
  | c :: rest =>
    match bracket? depth c with
    | none => some ([c], rest)
    | some depth => (toBracket? depth rest).map fun (spelling, rest) => (c :: spelling, rest)

def mark? : Char → Option Token
  | '{' => some openBody
  | '}' => some closeBody
  | '[' => some openList
  | ']' => some closeList
  | '=' => some equals
  | ',' => some comma
  | ';' => some semicolon
  | _ => none

/-- The token that a text begins with, and what follows it. -/
def next? : List Char → Option (Token × List Char)
  | [] => none
  | '"' :: rest => (toQuote? rest).map fun (spelling, rest) => (id ('"' :: spelling), rest)
  | '<' :: rest => (toBracket? 0 rest).map fun (spelling, rest) => (id ('<' :: spelling), rest)
  | '-' :: '>' :: rest => some (arrow, rest)
  | c :: rest =>
    match mark? c with
    | some token => some (token, rest)
    | none => (word? (c :: rest)).map fun (word, rest) => (id word, rest)

/-- The tokens of a text, if it is nothing but tokens and white space. -/
def tokens? (cs : List Char) : Option (List Token) :=
  let (tokens, rest) :=
    many (fun cs => (next? cs).map fun (token, rest) => (token, trimStart rest)) (trimStart cs)
  if rest = [] then some tokens else none

/-! ## One token after the other -/

theorem many_cons {α : Type} {item? : List Char → Option (α × List Char)} {item : α}
    {cs rest : List Char} (first : item? cs = some (item, rest))
    (shorter : rest.length < cs.length) :
    many item? cs = (item :: (many item? rest).1, (many item? rest).2) := by
  rw [many, first]
  simp only [if_pos shorter]

theorem tokens?_nil : tokens? [] = some [] := by
  rw [tokens?, many]
  rfl

theorem tokens?_cons {token : Token} {cs rest : List Char}
    (first : next? cs = some (token, rest)) (start : trimStart cs = cs)
    (shorter : rest.length < cs.length) : tokens? cs = (tokens? rest).map (token :: ·) := by
  have trimmed : (trimStart rest).length < cs.length :=
    Nat.lt_of_le_of_lt (List.dropWhile_sublist _).length_le shorter
  have step : ((next? cs).map fun (token, rest) => (token, trimStart rest)) =
      some (token, trimStart rest) := by rw [first]; rfl
  rw [tokens?, tokens?, start, many_cons step trimmed]
  simp only
  split <;> rfl

/-- The text has these tokens, whatever follows it. -/
def Lexes (text : List Char) (tokens : List Token) : Prop :=
  ∀ rest, tokens? (text ++ rest) = (tokens? rest).map (tokens ++ ·)

theorem lexes_nil : Lexes [] [] := by
  intro rest
  rw [List.nil_append]
  cases tokens? rest <;> rfl

theorem lexes_space {c : Char} (space : isWhiteSpace c = true) {text : List Char}
    {tokens : List Token} (more : Lexes text tokens) : Lexes (c :: text) tokens := by
  intro rest
  have trimmed : trimStart (c :: (text ++ rest)) = trimStart (text ++ rest) :=
    List.dropWhile_cons_of_pos space
  rw [List.cons_append, tokens?, trimmed]
  exact more rest

theorem lexes_cons {token : Token} {tokens : List Token} {text after : List Char}
    (first : ∀ rest, next? (text ++ rest) = some (token, after ++ rest))
    (start : Stops isWhiteSpace text) (shorter : after.length < text.length)
    (more : Lexes after tokens) : Lexes text (token :: tokens) := by
  intro rest
  have nonempty : text ≠ [] := List.ne_nil_of_length_pos (Nat.zero_lt_of_lt shorter)
  have trimmed : trimStart (text ++ rest) = text ++ rest :=
    dropWhile_of_stops (start.append nonempty rest)
  rw [tokens?_cons (first rest) trimmed (by simpa using shorter), more rest, Option.map_map]
  rfl

/-- A token that ends where its text ends. -/
theorem lexes_token {token : Token} {text : List Char}
    (first : ∀ rest, next? (text ++ rest) = some (token, rest)) (start : Stops isWhiteSpace text)
    (nonempty : text ≠ []) : Lexes text [token] := by
  have whole (rest : List Char) : next? (text ++ rest) = some (token, [] ++ rest) := first rest
  exact lexes_cons whole start (List.length_pos_iff.mpr nonempty) lexes_nil

theorem Lexes.append {text more : List Char} {tokens others : List Token}
    (first : Lexes text tokens) (second : Lexes more others) :
    Lexes (text ++ more) (tokens ++ others) := by
  intro rest
  rw [List.append_assoc, first, second, Option.map_map]
  congr 1
  funext last
  exact (List.append_assoc ..).symm

/-! ## Marks and words -/

theorem next?_mark {c : Char} {token : Token} (mark : mark? c = some token) (rest : List Char) :
    next? (c :: rest) = some (token, rest) := by
  rw [next?.eq_def]
  split
  · contradiction
  · next quote => cases quote; cases mark
  · next less => cases less; cases mark
  · next dash => cases dash; cases mark
  · next same => cases same; rw [mark]

theorem mark?_of_isWordChar {c : Char} (word : isWordChar c = true) : mark? c = none := by
  rw [mark?.eq_def]
  split
  all_goals first | rfl | exact absurd word (by decide)

theorem next?_word {word rest : List Char} (isWord : IsWord word) (stop : Stops isWordChar rest) :
    next? (word ++ rest) = some (id word, rest) := by
  obtain ⟨c, cs, rfl⟩ := List.exists_cons_of_ne_nil isWord.nonempty
  have first : isWordChar c = true := isWord.chars c (List.mem_cons_self ..)
  have read : word? (c :: (cs ++ rest)) = some (c :: cs, rest) :=
    word?_eq_some_iff.mpr ⟨rfl, isWord, stop⟩
  rw [List.cons_append, next?.eq_def]
  split
  · contradiction
  · next quote => exact absurd first ((List.cons.inj quote).1 ▸ by decide)
  · next less => exact absurd first ((List.cons.inj less).1 ▸ by decide)
  · next dash => exact absurd first ((List.cons.inj dash).1 ▸ by decide)
  · next same =>
    cases same
    rw [mark?_of_isWordChar first, read]
    rfl

theorem lexes_mark {c : Char} {token : Token} (mark : mark? c = some token) {text : List Char}
    {tokens : List Token} (more : Lexes text tokens) : Lexes (c :: text) (token :: tokens) := by
  refine lexes_cons (fun rest => next?_mark mark (text ++ rest)) (stops_cons ?_) ?_ more
  · cases space : isWhiteSpace c with
    | false => rfl
    | true =>
      have marks : whiteSpace.all (fun c => (mark? c).isNone) = true := by decide
      have unmarked := List.all_eq_true.mp marks c (List.contains_iff_mem.mp space)
      rw [mark] at unmarked
      cases unmarked
  · exact Nat.lt_succ_self _

/-- A word ends at a character that is of no word. -/
theorem lexes_word {word : List Char} (isWord : IsWord word) {c : Char}
    (stop : isWordChar c = false) {text : List Char} {tokens : List Token}
    (more : Lexes (c :: text) tokens) : Lexes (word ++ c :: text) (id word :: tokens) := by
  refine lexes_cons (fun rest => ?_) ?_ ?_ more
  · rw [List.append_assoc]
    exact next?_word isWord (stops_cons stop)
  · have start : Stops isWhiteSpace word := fun d head =>
      isWhiteSpace_of_isWordChar (isWord.chars d (List.mem_of_mem_head? head))
    exact start.append isWord.nonempty _
  · have some := List.length_pos_iff.mpr isWord.nonempty
    simpa using some

theorem lexes_arrow {text : List Char} {tokens : List Token} (more : Lexes text tokens) :
    Lexes ('-' :: '>' :: text) (arrow :: tokens) :=
  lexes_cons (fun _ => rfl) (stops_cons (by decide)) (by simp only [List.length_cons]; omega) more

/-! ## Quoted identifiers -/

theorem toQuote?_escape (name rest : List Char) :
    toQuote? (name.flatMap escapeNameChar ++ '"' :: rest) =
      some (name.flatMap escapeNameChar ++ ['"'], rest) := by
  induction name with
  | nil => rfl
  | cons c name ih =>
    rw [List.flatMap_cons, List.append_assoc, escapeNameChar]
    by_cases backslash : c = '\\'
    · subst backslash
      simp [toQuote?, ih]
    · by_cases quote : c = '"'
      · subst quote
        simp [toQuote?, ih]
      · simp [toQuote?, ih, backslash, quote]

theorem lexes_quotedName (name : String) : Lexes (quotedName name) [id (quotedName name)] := by
  refine lexes_token (fun rest => ?_) (stops_cons (by decide)) (List.cons_ne_nil _ _)
  rw [quotedName, List.append_assoc]
  change (toQuote? (name.toList.flatMap escapeNameChar ++ '"' :: rest)).map _ = _
  rw [toQuote?_escape]
  rfl

/-! ## Marked-up identifiers -/

/-- How many angle brackets are open behind a text when `depth` are open before it, if it closes
none that is not among them. -/
def depth? (depth : Nat) (text : List Char) : Option Nat := text.foldlM bracket? depth

theorem depth?_append (depth : Nat) (before after : List Char) :
    depth? depth (before ++ after) = (depth? depth before).bind (depth? · after) :=
  List.foldlM_append

theorem depth?_cons (depth : Nat) (c : Char) (rest : List Char) :
    depth? depth (c :: rest) = (bracket? depth c).bind (depth? · rest) :=
  List.foldlM_cons

/-- A text that closes no bracket from before it is read over. -/
theorem toBracket?_append {depth last : Nat} {text : List Char}
    (level : depth? depth text = some last) (rest : List Char) :
    toBracket? depth (text ++ rest) =
      (toBracket? last rest).map fun (spelling, rest) => (text ++ spelling, rest) := by
  induction text generalizing depth with
  | nil =>
    cases level
    exact Option.map_id'.symm
  | cons c text ih =>
    rw [depth?_cons] at level
    obtain ⟨next, step, more⟩ := Option.bind_eq_some_iff.mp level
    rw [List.cons_append, toBracket?, step]
    simp only [ih more, Option.map_map]
    rfl

/-- The text closes every angle bracket that it opens, and no other. -/
def Closed (text : List Char) : Prop := depth? 0 text = some 0

instance (text : List Char) : Decidable (Closed text) :=
  inferInstanceAs (Decidable (depth? 0 text = some 0))

theorem Closed.append {before after : List Char} (first : Closed before) (second : Closed after) :
    Closed (before ++ after) := by
  rw [Closed, depth?_append, first]
  exact second

theorem depth?_of_plain {text : List Char} (less : '<' ∉ text) (greater : '>' ∉ text)
    (depth : Nat) : depth? depth text = some depth := by
  induction text with
  | nil => rfl
  | cons c rest ih =>
    rw [List.mem_cons, not_or] at less greater
    rw [depth?_cons, bracket?, if_neg (Ne.symm less.1), if_neg (Ne.symm greater.1)]
    exact ih less.2 greater.2

theorem pieced_closed : Xml.Pieced Closed where
  flat := fun _ flat => depth?_of_plain flat.less flat.greater 0
  tag := by
    intro cs flat
    have opened : bracket? 0 '<' = some 1 := rfl
    rw [Closed, depth?_cons, opened, Option.bind_some, depth?_append,
      depth?_of_plain flat.less flat.greater]
    rfl
  append := fun _ _ => Closed.append

/-- Whatever the names hold, a label closes its brackets. -/
theorem closed_markup (e : Entity) : Closed (Label.markup e) := by
  rw [← Label.render_tree]
  exact pieced_closed.render (Label.tree e) (Label.valid_tree e)

/-- Between angle brackets a label ends at the last one. -/
theorem next?_markup (e : Entity) (rest : List Char) :
    next? ('<' :: (Label.markup e ++ '>' :: rest)) =
      some (id ('<' :: (Label.markup e ++ ['>'])), rest) := by
  have read : toBracket? 0 (Label.markup e ++ '>' :: rest) =
      some (Label.markup e ++ ['>'], rest) := by
    rw [toBracket?_append (closed_markup e)]
    rfl
  rw [next?, read]
  rfl

theorem lexes_markup (e : Entity) :
    Lexes ('<' :: Label.markup e ++ ['>']) [id ('<' :: Label.markup e ++ ['>'])] := by
  refine lexes_token (fun rest => ?_) (stops_cons (by decide)) (List.cons_ne_nil _ _)
  rw [List.append_assoc]
  exact next?_markup e rest

end Token

end EntityDiagram
