/-!
# Sets of code points

Properties of characters are kept as closed ranges of code points, ascending and
apart, so a lookup may stop at the first range that begins beyond the code point.
The sets of this library follow Unicode 17.0.
-/

namespace TrapDispatch

namespace CodePoints

/-- Whether every range, from first to last, is nonempty and begins at `bound` or
later, beyond all ranges before it. -/
def ascendingFrom (bound : Nat) : List (Nat × Nat) → Bool
  | [] => true
  | (first, last) :: rest => bound ≤ first && first ≤ last && ascendingFrom (last + 1) rest

/-- Whether a code point lies in one of the ranges, which ascend. -/
def covered (code : Nat) : List (Nat × Nat) → Bool
  | [] => false
  | (first, last) :: rest => first ≤ code && (code ≤ last || covered code rest)

end CodePoints

/-- A set of code points as closed ranges in ascending order. -/
structure CodePoints where
  ranges : List (Nat × Nat)
  ascending : CodePoints.ascendingFrom 0 ranges = true

/-- Whether a character is in the set. -/
def CodePoints.contains (points : CodePoints) (c : Char) : Bool :=
  covered c.toNat points.ranges

end TrapDispatch
