/-! # Similarity of words

Two characters match when they are equal and not too far apart, each used once. The similarity of
two words is the mean of three ratios: matches to the length of either word, and matches in order
to matches. It is kept as a fraction.
-/

namespace EntityDiagram.Text

/-- How far apart two matching characters may stand. -/
def matchRange (a b : List Char) : Nat := max a.length b.length / 2 - 1

/-- The first unused place of `c` from `low` on and before `high`. -/
def freePlace? (c : Char) (b : List Char) (used : List Nat) (low high : Nat) : Option Nat :=
  (List.range b.length).find? fun j =>
    low ≤ j && j < high && b[j]? == some c && !used.contains j

/-- The matching characters of `a`, in order, and the places in `b` that they match. -/
def matchPlaces (range : Nat) (b : List Char) :
    Nat → List Nat → List Char → List Char × List Nat
  | _, used, [] => ([], used)
  | i, used, c :: rest =>
    match freePlace? c b used (i - range) (i + range + 1) with
    | some j =>
      let (found, used) := matchPlaces range b (i + 1) (j :: used) rest
      (c :: found, used)
    | none => matchPlaces range b (i + 1) used rest

structure Fraction where
  numerator : Nat
  denominator : Nat
  deriving DecidableEq, Repr

def Fraction.below (x y : Fraction) : Bool :=
  x.numerator * y.denominator < y.numerator * x.denominator

def similarity (a b : List Char) : Fraction :=
  let (found, places) := matchPlaces (matchRange a b) b 0 [] a
  let others := b.zipIdx.filterMap fun (c, j) => if places.contains j then some c else none
  let count := found.length
  let moved := ((found.zip others).filter fun (c, d) => c ≠ d).length / 2
  if count = 0 then ⟨0, 1⟩
  else
    ⟨count * count * b.length + count * count * a.length + (count - moved) * a.length * b.length,
      3 * a.length * b.length * count⟩

end EntityDiagram.Text
