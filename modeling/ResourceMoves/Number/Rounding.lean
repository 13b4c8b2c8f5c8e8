import ResourceMoves.Number.Binary64

/-!
# Rounding to double precision

The double nearest to a ratio of natural numbers, and to a decimal.  Of two nearest doubles the one
with the even mantissa is taken, and a magnitude beyond the greatest double becomes infinite.
-/

namespace ResourceMoves.Number

/-- The natural number nearest to `p / q`; of two, the even one. -/
def roundHalfEven (p q : Nat) : Nat :=
  let d := p / q
  let r := p % q
  if 2 * r < q then d
  else if q < 2 * r then d + 1
  else d + d % 2

/-- `p / q` in units of `2 ^ e`, as a ratio. -/
def inUnits (p q : Nat) (e : Int) : Nat × Nat :=
  if 0 ≤ e then (p, q * pow2 e.toNat) else (p * pow2 (-e).toNat, q)

/-- The exponent at which `p / q` has 53 bits before the point, if the format has it. -/
def exponentOf (p q : Nat) : Int :=
  let e := max minExponent ((p.log2 : Int) - q.log2 - 53)
  let (p', q') := inUnits p q e
  if pow2 53 ≤ p' / q' then e + 1 else e

namespace Binary64

/-- The double nearest to `± p / q`. -/
def ofRatio (negative : Bool) (p q : Nat) : Binary64 :=
  if p = 0 then zero negative
  else
    let e := exponentOf p q
    let (p', q') := inUnits p q e
    let m := roundHalfEven p' q'
    if m = pow2 53 then ofParts negative (pow2 52) (e + 1) else ofParts negative m e

/-- The double nearest to an integer. -/
def ofInt (i : Int) : Binary64 := ofRatio (i < 0) i.natAbs 1

/-- The double nearest to `± d · 10 ^ x`.  A power of ten far outside the range of doubles is not
computed: the result is infinite, or zero. -/
def ofDecimal (negative : Bool) (d : Nat) (x : Int) : Binary64 :=
  if d = 0 then zero negative
  else
    let magnitude := x + (digits d).length
    if 400 < magnitude then .infinite negative
    else if magnitude < -400 then zero negative
    else if 0 ≤ x then ofRatio negative (d * pow10 x.toNat) 1
    else ofRatio negative d (pow10 (-x).toNat)

end Binary64

end ResourceMoves.Number
