import ResourceMoves.Number.Digits

/-!
# Double-precision numbers

The numbers of the IEEE 754 format binary64, as exact values: a finite one is
`± mantissa · 2 ^ exponent` in the one form the format has for it (`Canonical`).  Numbers are
compared as the format compares them (`agrees`): the two zeros agree, and nothing agrees with a
number that is not one.
-/

namespace ResourceMoves.Number

/-- The least exponent of the format. -/
def minExponent : Int := -1074

/-- The greatest exponent of the format. -/
def maxExponent : Int := 971

/-- `m · 2 ^ e` is written with all 53 bits of precision, or with the least exponent. -/
def Canonical (m : Nat) (e : Int) : Prop :=
  m < pow2 53 ∧ minExponent ≤ e ∧ e ≤ maxExponent ∧ (pow2 52 ≤ m ∨ e = minExponent)

instance (m : Nat) (e : Int) : Decidable (Canonical m e) := by
  unfold Canonical; infer_instance

/-- A number of the format binary64. -/
inductive Binary64
  | nan
  | infinite (negative : Bool)
  | finite (negative : Bool) (mantissa : Nat) (exponent : Int)
      (canonical : Canonical mantissa exponent)
  deriving DecidableEq

namespace Binary64

/-- Zero, with a sign. -/
def zero (negative : Bool) : Binary64 := .finite negative 0 minExponent (by decide)

instance : Inhabited Binary64 := ⟨zero false⟩

/-- `± m · 2 ^ e`; infinite when `m` and `e` are no canonical pair. -/
def ofParts (negative : Bool) (m : Nat) (e : Int) : Binary64 :=
  if h : Canonical m e then .finite negative m e h else .infinite negative

/-- Equality of the format: as numbers, so the zeros agree and `nan` agrees with nothing. -/
def agrees : Binary64 → Binary64 → Bool
  | .finite n m e _, .finite n' m' e' _ => m == m' && e == e' && (n == n' || m == 0)
  | .infinite n,     .infinite n'       => n == n'
  | _,               _                  => false

/-- A number proper: neither infinite nor `nan`. -/
def isFinite : Binary64 → Bool
  | .finite .. => true
  | _          => false

/-- The integer that a finite number is equal to, if it is whole. -/
def whole? : Binary64 → Option Int
  | .finite n m e _ =>
      let magnitude : Option Nat :=
        if 0 ≤ e then some (m * pow2 e.toNat)
        else if m % pow2 (-e).toNat = 0 then some (m / pow2 (-e).toNat) else none
      magnitude.map fun k => if n then -(k : Int) else k
  | _ => none

theorem agrees_comm (a b : Binary64) : a.agrees b = b.agrees a := by
  cases a <;> cases b <;> simp only [agrees]
  · exact Bool.beq_comm
  · rename_i n m e _ n' m' e' _
    rw [Bool.eq_iff_iff]
    simp only [Bool.and_eq_true, Bool.or_eq_true, beq_iff_eq]
    constructor <;> (rintro ⟨⟨rfl, rfl⟩, h | h⟩ <;> simp_all)

theorem agrees_self {a : Binary64} (h : a ≠ .nan) : a.agrees a = true := by
  cases a <;> simp_all [agrees]

end Binary64

end ResourceMoves.Number
