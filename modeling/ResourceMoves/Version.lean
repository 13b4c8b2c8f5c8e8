import ResourceMoves.Number.Digits
import ResourceMoves.Text.Blank

/-!
# Planner versions

The version of a planner: two or three numbers with dots between them, compared number by number.
What follows the first `-` or `+` is no part of it.
-/

namespace ResourceMoves

/-- A version. -/
structure Version where
  major : Nat
  minor : Nat
  patch : Nat
  deriving DecidableEq

namespace Version

/-- The part of a text that spells a version, white space around it, a leading `v` and a suffix
aside. -/
def core (s : List Char) : List Char :=
  let t := match Text.trim s with
    | 'v' :: r => r
    | r        => r
  t.takeWhile fun c => c != '-' && c != '+'

/-- The version that a text spells. -/
def ofText? (s : String) : Option Version :=
  match (core s.toList).splitOn '.' with
  | [a, b]    => do return ⟨← Number.word? a, ← Number.word? b, 0⟩
  | [a, b, c] => do return ⟨← Number.word? a, ← Number.word? b, ← Number.word? c⟩
  | _         => none

/-- The version as three numbers. -/
def display (v : Version) : String :=
  Number.text v.major ++ "." ++ Number.text v.minor ++ "." ++ Number.text v.patch

/-- Order by the first number that differs. -/
def le (v w : Version) : Bool :=
  v.major < w.major || (v.major == w.major &&
    (v.minor < w.minor || (v.minor == w.minor && v.patch ≤ w.patch)))

/-- The first version that applies `moved` blocks. -/
def firstWithMovedBlocks : Version := ⟨1, 1, 0⟩

/-- The planner applies `moved` blocks. -/
def supportsMovedBlocks (v : Version) : Bool := firstWithMovedBlocks.le v

end Version

end ResourceMoves
