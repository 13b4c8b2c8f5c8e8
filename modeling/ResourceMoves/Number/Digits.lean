import ResourceMoves.Number.Power

/-!
# Decimal digits

The decimal digits of a natural number, and the number a run of digits spells.  Reading the digits
of a number gives the number back (`value_digits`).
-/

namespace ResourceMoves.Number

/-- An ASCII digit. -/
def isDigit (c : Char) : Bool := '0' ≤ c && c ≤ '9'

/-- The digit for `d`, which is below ten. -/
def digit (d : Nat) : Char := Char.ofNat ('0'.toNat + d)

/-- The number a digit stands for. -/
def digitValue (c : Char) : Nat := c.toNat - '0'.toNat

/-- The decimal digits of `n`, the most significant first and without leading zeros. -/
def digits (n : Nat) : List Char :=
  if n < 10 then [digit n] else digits (n / 10) ++ [digit (n % 10)]
termination_by n

/-- The number that a run of digits spells; the empty run spells zero. -/
def value (s : List Char) : Nat :=
  s.foldl (fun acc c => 10 * acc + digitValue c) 0

theorem digitValue_digit {d : Nat} (h : d < 10) : digitValue (digit d) = d := by
  have : ∀ d < 10, digitValue (digit d) = d := by decide
  exact this d h

theorem isDigit_digit {d : Nat} (h : d < 10) : isDigit (digit d) = true := by
  have : ∀ d < 10, isDigit (digit d) = true := by decide
  exact this d h

theorem value_append_singleton (s : List Char) (c : Char) :
    value (s ++ [c]) = 10 * value s + digitValue c := by
  simp [value]

theorem value_digits (n : Nat) : value (digits n) = n := by
  induction n using Nat.strongRecOn with
  | ind n ih =>
      rw [digits]
      split
      · rename_i h; simp [value, digitValue_digit h]
      · rename_i h
        rw [value_append_singleton, ih _ (by omega), digitValue_digit (by omega)]
        omega

theorem digits_all (n : Nat) : (digits n).all isDigit = true := by
  induction n using Nat.strongRecOn with
  | ind n ih =>
      rw [digits]
      split
      · rename_i h; simp [isDigit_digit h]
      · rename_i h
        simp [ih _ (show n / 10 < n by omega), isDigit_digit (show n % 10 < 10 by omega)]

theorem digits_ne_nil (n : Nat) : digits n ≠ [] := by
  rw [digits]; split <;> simp

/-- `n` in decimal. -/
def text (n : Nat) : String := .ofList (digits n)

/-- `i` in decimal, with a minus sign when it is negative. -/
def intText (i : Int) : String :=
  if i < 0 then "-" ++ text i.natAbs else text i.natAbs

/-- The digits of `n`, with zeros in front up to `width` characters. -/
def padded (width n : Nat) : List Char :=
  List.replicate (width - (digits n).length) '0' ++ digits n

/-- The unsigned 64-bit number that `s` spells: an optional plus sign, then digits only. -/
def word? (s : List Char) : Option Nat :=
  let ds := match s with
    | '+' :: r => r
    | r        => r
  if !ds.isEmpty && ds.all isDigit && value ds < pow2 64 then some (value ds) else none

end ResourceMoves.Number
