import ResourceMoves.Number.Literal

/-!
# Decimal literals, rounded in steps

A reader that goes over a literal once, with a word of 64 bits and the arithmetic of doubles, rounds
more than once: the digits that fit in a word become the nearest double, and that is multiplied or
divided by the nearest double of a power of ten (`Literal.stepwise`).  The result can differ from
the nearest double of the literal (`Literal.toBinary64`) in its last place: `51.248178375505404` is
read as `51.24817837550541`.
-/

namespace ResourceMoves.Number

/-- Adds digits at the end of a number as long as the number fits in a word: the number, and the
digits that are left. -/
def gather (n : Nat) : List Char → Nat × List Char
  | []     => (n, [])
  | c :: r =>
      let n' := 10 * n + digitValue c
      if n' < pow2 64 then gather n' r else (n, c :: r)

/-- The greatest power of ten that is a finite double. -/
def greatestPower : Nat := 308

namespace Binary64

/-- `x · 10 ^ k` for a finite `x`, where `10 ^ |k|` is rounded, and then the product or quotient. -/
def scaled (x : Binary64) (k : Int) : Binary64 :=
  match x, ofRatio false (pow10 k.natAbs) 1 with
  | .finite n m e _, .finite _ m' e' _ =>
      let (p, q) := if 0 ≤ k then inUnits (m * m') 1 (-(e + e')) else inUnits m m' (e' - e)
      ofRatio n p q
  | x, _ => x

/-- `x · 10 ^ k` for a finite `x` and any `k`.  A small number is divided more than once, and it is
infinite, unless it is zero, when it would have to be multiplied more than once. -/
def rescaled (x : Binary64) (k : Int) : Binary64 :=
  if k.natAbs ≤ greatestPower then x.scaled k
  else if x.agrees (zero false) then x
  else if 0 ≤ k then .infinite false
  else rescaled (x.scaled (-greatestPower)) (k + greatestPower)
termination_by k.natAbs
decreasing_by simp only [greatestPower] at *; omega

end Binary64

namespace Literal

/-- The digits of a literal that fit in a word, as a number, and the power of ten it is multiplied
by.  Of the other digits those before the point count for the power, and those after it do not. -/
def significand (l : Literal) : Nat × Int :=
  let (n, counted) := gather 0 l.whole
  let (n, dropped) := gather n l.fraction
  (n, l.power + counted.length + dropped.length - l.fraction.length)

/-- The double of a literal, rounded in steps; infinite when it is beyond all doubles. -/
def stepwise (l : Literal) : Binary64 :=
  let (n, k) := l.significand
  (Binary64.ofRatio l.negative n 1).rescaled k

end Literal

/-- The nearest double of this literal is `51.248178375505404`. -/
example : (Literal.stepwise ⟨false, "51".toList, "248178375505404".toList, 0⟩) =
    Literal.toBinary64 ⟨false, "51".toList, "24817837550541".toList, 0⟩ := by
  decide +kernel

end ResourceMoves.Number
