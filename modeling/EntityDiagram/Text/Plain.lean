/-! # Plain text

Text as it is written where no terminal reads it: control sequences are left out, and so is every
control character that is not white space. A sequence begins with an escape character; how it ends
depends on the character after that.
-/

namespace EntityDiagram.Text

/-- What a character is part of. -/
inductive Mode where
  | plain
  | escape
  | intermediate
  | control
  /-- A string for the terminal, which a bell may end. -/
  | string (bell : Bool)
  deriving DecidableEq, Repr

namespace Mode

def isSpacing (c : Char) : Bool :=
  c == ' ' || c == '\t' || c == '\n' || c == '\x0c' || c == '\r'

def isControl (c : Char) : Bool := c.toNat < 0x20 || c.toNat = 0x7F

/-- Whether `c` shows, when it does not begin or cancel a sequence. -/
def shows : Mode → Char → Bool
  | plain, c => isSpacing c || !isControl c
  | escape, c | intermediate, c | control, c => c != ' ' && isSpacing c
  | string _, _ => false

/-- The mode after a character that has a meaning within a sequence. -/
def ended (final : Bool) (mode : Mode) : Mode := if final then plain else mode

/-- The mode after `c`, when it does not begin or cancel a sequence. -/
def next : Mode → Char → Mode
  | plain, _ => plain
  | escape, '[' => control
  | escape, ']' => string true
  | escape, 'P' | escape, 'X' | escape, '^' | escape, '_' => string false
  | escape, c =>
    if 0x20 ≤ c.toNat ∧ c.toNat ≤ 0x2F then intermediate
    else ended (0x30 ≤ c.toNat && c.toNat ≤ 0x7E) escape
  | intermediate, c => ended (0x30 ≤ c.toNat && c.toNat ≤ 0x7E) intermediate
  | control, c => ended (0x40 ≤ c.toNat && c.toNat ≤ 0x7E) control
  | string bell, c => ended (bell && c == '\x07') (string bell)

end Mode

/-- The characters of a text that show, where `mode` is what the text begins in. -/
def plainIn (mode : Mode) : List Char → List Char
  | [] => []
  | c :: rest =>
    if c = '\x1b' then plainIn .escape rest
    else if c = '\x18' ∨ c = '\x1a' then plainIn .plain rest
    else if mode.shows c then c :: plainIn (mode.next c) rest
    else plainIn (mode.next c) rest

def plain (s : String) : String := String.ofList (plainIn .plain s.toList)

end EntityDiagram.Text
