import ResourceMoves.Number.Rounding

/-!
# Decimal literals

A decimal literal is a sign, digits around an optional point, and an optional power of ten.  Two
grammars use it: the free-standing number texts read here (`ofText?`), whose value is the nearest
double (`Literal.toBinary64`) and which may also spell the infinities and `nan`, and the literals of
JSON, which the JSON reader reads in its own way.
-/

namespace ResourceMoves.Number

/-- A decimal literal: `± whole.fraction · 10 ^ power`. -/
structure Literal where
  negative : Bool
  whole    : List Char
  fraction : List Char
  power    : Int

namespace Literal

/-- The double nearest to the literal. -/
def toBinary64 (l : Literal) : Binary64 :=
  .ofDecimal l.negative (value (l.whole ++ l.fraction)) (l.power - l.fraction.length)

end Literal

/-- A leading sign, as "is negative", and what follows it. -/
def takeSign : List Char → Bool × List Char
  | '-' :: r => (true, r)
  | '+' :: r => (false, r)
  | r        => (false, r)

/-- The power of ten of a number text: nothing, or `e`, a sign if any, and digits to the end. -/
def power? : List Char → Option Int
  | [] => some 0
  | c :: r =>
      let (negative, ds) := takeSign r
      if (c == 'e' || c == 'E') && !ds.isEmpty && ds.all isDigit then
        some (if negative then -(value ds : Int) else value ds)
      else none

/-- The digits after the point, if there is a point, and what follows them. -/
def takeFraction : List Char → List Char × List Char
  | '.' :: r => r.span isDigit
  | r        => ([], r)

namespace Binary64

/-- The number that a text spells: an optional sign, then `inf`, `infinity` or `nan` in any case, or
digits with at most one point among them and an optional power of ten. -/
def ofText? (s : List Char) : Option Binary64 :=
  let (negative, r) := takeSign s
  let word := String.ofList (r.map Char.toLower)
  if word = "inf" ∨ word = "infinity" then some (.infinite negative)
  else if word = "nan" then some .nan
  else
    let (whole, afterWhole) := r.span isDigit
    let (fraction, rest) := takeFraction afterWhole
    if whole.isEmpty && fraction.isEmpty then none
    else (power? rest).map fun power => Literal.toBinary64 ⟨negative, whole, fraction, power⟩

end Binary64

end ResourceMoves.Number
