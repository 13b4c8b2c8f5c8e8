import Mathlib.Data.List.Induction
import ResourceMoves.Proofs.Number.Word

/-!
# Unsigned 64-bit numbers as texts — other spellings

A number is written as its digits, but more texts spell it: those with a plus sign, and those with
zeros in front (`Loose`).  There are no others, since **all digits are those of a number with zeros
in front** (`exists_zeros`).  So a text that spells a number is what the number is written as just
when it is not loose (`SpellsWord.eq_digits_iff`).
-/

namespace ResourceMoves.Number

variable {s ds : List Char} {n : Nat}

/-! ### Digits and zeros -/

/-- A digit stands for a number below ten, and is written for that number. -/
theorem digit_digitValue {c : Char} (h : isDigit c) :
    digitValue c < 10 ∧ digit (digitValue c) = c := by
  obtain ⟨hlow, hhigh⟩ := toNat_of_isDigit h
  have hsum : '0'.toNat + (c.toNat - '0'.toNat) = c.toNat := by
    simp only [Char.reduceToNat]
    omega
  constructor
  · simp only [digitValue, Char.reduceToNat]
    omega
  · rw [digit, digitValue, hsum, Char.ofNat_toNat]

theorem digits_of_lt (h : n < 10) : digits n = [digit n] := by
  rw [digits, if_pos h]

theorem digits_append (hn : 0 < n) {d : Nat} (hd : d < 10) :
    digits (10 * n + d) = digits n ++ [digit d] := by
  rw [digits, if_neg (by omega)]
  congr
  · omega
  · omega

/-- **Digits are those of a number, with zeros in front.** -/
theorem exists_zeros (hne : ds ≠ []) (hds : ∀ c ∈ ds, isDigit c) :
    ∃ k, ds = List.replicate k '0' ++ digits (value ds) := by
  induction ds using List.reverseRecOn with
  | nil => exact absurd rfl hne
  | append_singleton ds c ih =>
      obtain ⟨hlt, hdigit⟩ := digit_digitValue (hds c (by simp))
      rw [value_append_singleton]
      by_cases hempty : ds = []
      · subst hempty
        refine ⟨0, ?_⟩
        simp [value, digits_of_lt hlt, hdigit]
      · obtain ⟨k, hk⟩ := ih hempty fun d hd => hds d (List.mem_append_left _ hd)
        by_cases hzero : value ds = 0
        · -- so far there are only zeros, and the last digit stands alone
          rw [hzero, digits_of_lt (by omega)] at hk
          refine ⟨k + 1, ?_⟩
          rw [hzero, Nat.mul_zero, Nat.zero_add, digits_of_lt hlt, hdigit, List.replicate_succ']
          exact congrArg (· ++ [c]) hk
        · refine ⟨k, ?_⟩
          rw [digits_append (Nat.pos_of_ne_zero hzero) hlt, hdigit, ← List.append_assoc, ← hk]

/-- The digits of a number do not begin with a zero and go on. -/
theorem digits_ne_zero_cons (hne : ds ≠ []) : digits n ≠ '0' :: ds := by
  intro h
  have hvalue : value ds = n := by
    have hcons : value ('0' :: ds) = value ds := rfl
    rw [← hcons, ← h, value_digits]
  obtain ⟨k, hk⟩ := exists_zeros hne fun c hc =>
    isDigit_of_mem_digits (h ▸ List.mem_cons_of_mem _ hc)
  have hlength := congrArg List.length hk
  rw [hvalue, h] at hlength
  simp only [List.length_append, List.length_replicate, List.length_cons] at hlength
  omega

/-! ### Loose spellings -/

/-- The text spells a number, but not as it is written: there is a plus sign before its digits, or a
zero. -/
inductive Loose : List Char → Prop
  | signed {ds : List Char} {n : Nat} (h : DigitsOfWord ds n) : Loose ('+' :: ds)
  | padded {ds : List Char} {n : Nat} (hne : ds ≠ []) (h : DigitsOfWord ('0' :: ds) n) :
      Loose ('0' :: ds)

theorem Loose.exists_spellsWord (h : Loose s) : ∃ n, SpellsWord s n := by
  cases h with
  | signed h => exact ⟨_, .signed h⟩
  | padded _ h => exact ⟨_, .bare h⟩

/-- The digits of a number are not loose. -/
theorem not_loose_digits (n : Nat) : ¬ Loose (digits n) := by
  intro h
  cases hdigits : digits n with
  | nil => exact digits_ne_nil n hdigits
  | cons c ds =>
      rw [hdigits] at h
      cases h with
      | signed _ =>
          exact absurd (isDigit_of_mem_digits (hdigits ▸ List.mem_cons_self)) (by decide)
      | padded hne _ => exact digits_ne_zero_cons hne hdigits

/-- **What spells a number is its digits, unless it is loose.** -/
theorem SpellsWord.eq_digits_iff (h : SpellsWord s n) : s = digits n ↔ ¬ Loose s := by
  constructor
  · rintro rfl
    exact not_loose_digits n
  · intro hloose
    cases h with
    | signed h => exact absurd (.signed h) hloose
    | bare h =>
        obtain ⟨k, hk⟩ := exists_zeros h.ne_nil h.digits
        rw [h.value_eq] at hk
        cases k with
        | zero => exact hk
        | succ k =>
            rw [hk] at h hloose
            exact absurd (.padded (by simp [digits_ne_nil]) h) hloose

end ResourceMoves.Number
