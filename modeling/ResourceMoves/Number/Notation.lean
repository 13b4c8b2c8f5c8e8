import ResourceMoves.Number.Shortest

/-!
# Written numbers

Two ways to write a double by its shortest decimal.  Plain text (`Binary64.plain`) never has an
exponent and marks no whole number; JSON text (`Binary64.json?`) shows that the number is a double,
by a point or an exponent, and leaves the infinities and `nan` without a text.
-/

namespace ResourceMoves.Number

namespace Decimal

/-- The digits of the decimal. -/
def figures (d : Decimal) : List Char := Number.digits d.digits

/-- The power of ten of the first digit. -/
def exponent (d : Decimal) : Int := d.power + d.figures.length - 1

/-- The decimal without an exponent: digits and, unless it is whole, a point. -/
def positional (d : Decimal) : List Char :=
  if 0 ≤ d.power then d.figures ++ List.replicate d.power.toNat '0'
  else
    let places := (-d.power).toNat
    let whole := d.figures.length - places
    if whole = 0 then
      ['0', '.'] ++ List.replicate (places - d.figures.length) '0' ++ d.figures
    else d.figures.take whole ++ '.' :: d.figures.drop whole

/-- The decimal with one digit before the point and a signed exponent. -/
def scientific (d : Decimal) : List Char :=
  let mantissa := match d.figures with
    | []      => []
    | [c]     => [c]
    | c :: cs => c :: '.' :: cs
  let e := d.exponent
  mantissa ++ 'e' :: (if e < 0 then '-' else '+') :: Number.digits e.natAbs

/-- JSON writes the exponents from -5 to 15 positionally, a whole number with `.0`. -/
def json (d : Decimal) : List Char :=
  if -5 ≤ d.exponent ∧ d.exponent ≤ 15 then
    if 0 ≤ d.power then d.positional ++ ['.', '0'] else d.positional
  else d.scientific

end Decimal

namespace Binary64

/-- The sign of a number as text. -/
def signText (negative : Bool) : List Char := if negative then ['-'] else []

/-- The number in digits, without an exponent.  An exact tie between two shortest decimals goes
up. -/
def plain : Binary64 → List Char
  | .nan            => ['N', 'a', 'N']
  | .infinite n     => signText n ++ ['i', 'n', 'f']
  | .finite n m e _ =>
      signText n ++ if m = 0 then ['0'] else (shortest .up m e).positional

/-- The text of a finite number in JSON.  An exact tie between two shortest decimals goes to the
even one. -/
def json? : Binary64 → Option (List Char)
  | .finite n m e _ =>
      some (signText n ++ if m = 0 then ['0', '.', '0'] else (shortest .even m e).json)
  | _ => none

end Binary64

end ResourceMoves.Number
