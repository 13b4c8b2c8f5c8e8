/-!
# Sets of code points

A property of characters is a list of ranges of code points, each with both of its ends, from the
least to the greatest.
-/

namespace ResourceMoves.Text

/-- `n` lies in one of the ranges, which are in order. -/
def inRanges (n : Nat) : List (Nat × Nat) → Bool
  | []             => false
  | (a, b) :: rest => if n < a then false else n ≤ b || inRanges n rest

/-- The code point of `c` lies in one of the ranges, which are in order. -/
def isIn (c : Char) (ranges : List (Nat × Nat)) : Bool := inRanges c.toNat ranges

end ResourceMoves.Text
