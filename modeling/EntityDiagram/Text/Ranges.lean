/-! # Tables of code points

A set of characters is given by ascending, inclusive ranges of code points. What the tables say of
letters, numbers, case and visibility is what version 16.0 of Unicode says.
-/

namespace EntityDiagram.Text

/-- Stops at the first range that begins above `n`. -/
def inRanges : List (Nat × Nat) → Nat → Bool
  | [], _ => false
  | (first, last) :: rest, n => first ≤ n && (n ≤ last || inRanges rest n)

end EntityDiagram.Text
