import ResourceMoves.Number.Binary64

/-!
# Shortest decimals

The decimal with the fewest digits among those that read back as a given double.  A decimal reads
back as a double when it lies in the interval of reals nearest to that double (`Neighbourhood`), and
the coarsest decimal grid with a point in the interval gives the digits: if any of its points lies
there, so does one of the two around the double itself.
-/

namespace ResourceMoves.Number

/-- A positive decimal `digits · 10 ^ power`. -/
structure Decimal where
  digits : Nat
  power  : Int
  deriving DecidableEq

/-- Which of two equally near decimals is taken. -/
inductive Tie
  | even
  | up
  deriving DecidableEq

/-- The reals that round to the double `middle · 2 ^ unit`: those between `low` and `high` in the
same unit, the ends themselves only when `closed`. -/
structure Neighbourhood where
  low    : Nat
  middle : Nat
  high   : Nat
  unit   : Int
  closed : Bool

/-- The reals that round to `m · 2 ^ e`.  The gap below is half as wide where the exponent
changes. -/
def neighbourhood (m : Nat) (e : Int) : Neighbourhood where
  low    := if m = pow2 52 ∧ minExponent < e then 4 * m - 1 else 4 * m - 2
  middle := 4 * m
  high   := 4 * m + 2
  unit   := e - 2
  closed := m % 2 == 0

/-- Factors `(a, b)` with `d · 10 ^ s ≤ x · 2 ^ u ↔ d · a ≤ x · b`. -/
def scales (s u : Int) : Nat × Nat :=
  (pow10 s.toNat * pow2 (-u).toNat, pow2 u.toNat * pow10 (-s).toNat)

namespace Neighbourhood

/-- `d · 10 ^ s` rounds to the double. -/
def holds (n : Neighbourhood) (d : Nat) (s : Int) : Bool :=
  let (a, b) := scales s n.unit
  if n.closed then n.low * b ≤ d * a && d * a ≤ n.high * b
  else n.low * b < d * a && d * a < n.high * b

/-- The point of the grid `10 ^ s` that rounds to the double and is nearest to it, if any does. -/
def onGrid? (tie : Tie) (n : Neighbourhood) (s : Int) : Option Decimal :=
  let (a, b) := scales s n.unit
  let below := n.middle * b / a
  let twice := 2 * (n.middle * b)
  let halfway := (2 * below + 1) * a
  let preferAbove := halfway < twice ||
    (halfway == twice && (tie == .up || below % 2 == 1))
  match n.holds below s, n.holds (below + 1) s with
  | true,  true  => some ⟨if preferAbove then below + 1 else below, s⟩
  | true,  false => some ⟨below, s⟩
  | false, true  => some ⟨below + 1, s⟩
  | false, false => none

end Neighbourhood

/-- The power of ten of the leading digit of `m · 2 ^ e`. -/
def leadingPower (m : Nat) (e : Int) : Int :=
  let (p, q) := (m * pow2 e.toNat, pow2 (-e).toNat)
  if q ≤ p then (digits (p / q)).length - 1
  else -((digits ((q + p - 1) / p - 1)).length : Int)

/-- `m · 2 ^ e` itself as a decimal. -/
def exactDecimal (m : Nat) (e : Int) : Decimal :=
  if 0 ≤ e then ⟨m * pow2 e.toNat, 0⟩ else ⟨m * Nat.pow 5 (-e).toNat, e⟩

/-- `d` without its trailing zeros, which go into the power. -/
def Decimal.stripped (d : Decimal) : Decimal :=
  if d.digits = 0 then d
  else if d.digits % 10 = 0 then stripped ⟨d.digits / 10, d.power + 1⟩ else d
termination_by d.digits
decreasing_by omega

/-- The shortest decimal that reads back as `m · 2 ^ e`, the nearest of them to it; grids down to
the seventeenth digit are tried, and every double has a point on one of these. -/
def shortest (tie : Tie) (m : Nat) (e : Int) : Decimal :=
  let top := leadingPower m e
  let onGrid := (List.range 17).findSome? fun i : Nat =>
    (neighbourhood m e).onGrid? tie (top - i)
  (onGrid.getD (exactDecimal m e)).stripped

example : shortest .even 7205759403792794 (-56) = ⟨1, -1⟩ := by decide +kernel
example : shortest .up 5404319552844595 (-54) = ⟨3, -1⟩ := by decide +kernel

end ResourceMoves.Number
