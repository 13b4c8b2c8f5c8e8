import Mathlib.Algebra.Order.Field.Power
import Mathlib.Tactic.Linarith
import Mathlib.Tactic.Positivity
import Mathlib.Tactic.Ring
import ResourceMoves.Number.Shortest

/-!
# Decimals near a double

The reals that round to a double, as rational numbers (`Neighbourhood.Mem`).  The integers in which
a decimal and the ends of the interval are compared are these numbers, in a common unit
(`exists_scale`), so whatever grid is tried, **the shortest decimal of a double rounds to it**
(`mem_shortest`).  The intervals of two doubles have at most an end in common, and there one of the
two is open (`lt_of_mem`): **a rational number rounds to one double only** (`eq_of_mem`).
-/

namespace ResourceMoves.Number

variable {m m' : Nat} {e e' : Int} {q q' : ℚ}

/-- The rational number that a decimal is. -/
def Decimal.toRat (d : Decimal) : ℚ := d.digits * 10 ^ d.power

/-- The number is in the interval. -/
def Neighbourhood.Mem (n : Neighbourhood) (q : ℚ) : Prop :=
  if n.closed then n.low * 2 ^ n.unit ≤ q ∧ q ≤ n.high * 2 ^ n.unit
  else n.low * 2 ^ n.unit < q ∧ q < n.high * 2 ^ n.unit

/-! ### Common units -/

theorem cast_pow (b k : Nat) : ((Nat.pow b k : Nat) : ℚ) = (b : ℚ) ^ k := Nat.cast_pow b k

theorem pow_toNat_eq {b : ℚ} (hb : b ≠ 0) (i : Int) :
    b ^ i.toNat = b ^ i * b ^ (-i).toNat := by
  rw [← zpow_natCast, ← zpow_natCast, ← zpow_add₀ hb]
  congr 1
  omega

/-- The two factors bring both units to the same one. -/
theorem exists_scale (s u : Int) : ∃ c : ℚ, 0 < c ∧
    ((scales s u).1 : ℚ) = 10 ^ s * c ∧ ((scales s u).2 : ℚ) = 2 ^ u * c := by
  refine ⟨10 ^ (-s).toNat * 2 ^ (-u).toNat, by positivity, ?_, ?_⟩
  · simp only [scales, Nat.cast_mul, cast_pow, Nat.cast_ofNat]
    rw [pow_toNat_eq (by norm_num) s, mul_assoc]
  · simp only [scales, Nat.cast_mul, cast_pow, Nat.cast_ofNat]
    rw [pow_toNat_eq (by norm_num) u, mul_assoc, mul_comm (10 ^ _)]

namespace Neighbourhood

variable {n : Neighbourhood} {d : Decimal}

/-- What is compared in integers is the decimal and the ends of the interval. -/
theorem holds_iff (n : Neighbourhood) (d : Nat) (s : Int) :
    n.holds d s ↔ n.Mem (Decimal.toRat ⟨d, s⟩) := by
  obtain ⟨c, hc, hfirst, hsecond⟩ := exists_scale s n.unit
  have hle (x y : Nat) (f g : ℚ) : (x : ℚ) * (f * c) ≤ y * (g * c) ↔ x * f ≤ y * g := by
    rw [← mul_assoc, ← mul_assoc, mul_le_mul_iff_left₀ hc]
  have hlt (x y : Nat) (f g : ℚ) : (x : ℚ) * (f * c) < y * (g * c) ↔ x * f < y * g := by
    rw [← mul_assoc, ← mul_assoc, mul_lt_mul_iff_left₀ hc]
  simp only [holds, Mem, Decimal.toRat]
  split
  · simp only [Bool.and_eq_true, decide_eq_true_eq, ← Nat.cast_le (α := ℚ), Nat.cast_mul, hfirst,
      hsecond, hle]
  · simp only [Bool.and_eq_true, decide_eq_true_eq, ← Nat.cast_lt (α := ℚ), Nat.cast_mul, hfirst,
      hsecond, hlt]

theorem Mem.le (h : n.Mem q) : n.low * 2 ^ n.unit ≤ q ∧ q ≤ n.high * 2 ^ n.unit := by
  unfold Mem at h
  split at h
  · exact h
  · exact ⟨h.1.le, h.2.le⟩

theorem Mem.lt (h : n.Mem q) (hopen : ¬ n.closed) :
    n.low * 2 ^ n.unit < q ∧ q < n.high * 2 ^ n.unit := by
  rwa [Mem, if_neg hopen] at h

/-- A point of a grid that is taken is in the interval. -/
theorem mem_of_onGrid? {tie : Tie} {s : Int} (h : n.onGrid? tie s = some d) : n.Mem d.toRat := by
  simp only [onGrid?] at h
  split at h
  · split at h <;> (cases h; exact (n.holds_iff _ s).1 ‹_›)
  · cases h; exact (n.holds_iff _ s).1 ‹_›
  · cases h; exact (n.holds_iff _ s).1 ‹_›
  · cases h

end Neighbourhood

/-! ### The shortest decimal -/

theorem toRat_exactDecimal (m : Nat) (e : Int) : (exactDecimal m e).toRat = m * 2 ^ e := by
  unfold exactDecimal
  split
  case isTrue h =>
      lift e to Nat using h
      simp [Decimal.toRat]
  case isFalse h =>
      obtain ⟨k, rfl⟩ : ∃ k : Nat, e = -k := ⟨(-e).toNat, by omega⟩
      have hten : (10 : ℚ) = 5 * 2 := by norm_num
      simp only [Decimal.toRat, Nat.cast_mul, cast_pow, neg_neg, Int.toNat_natCast, Nat.cast_ofNat,
        zpow_neg, zpow_natCast, hten, mul_pow]
      rw [mul_inv, mul_assoc, mul_inv_cancel_left₀ (by positivity)]

theorem toRat_stripped (d : Decimal) : d.stripped.toRat = d.toRat := by
  fun_induction Decimal.stripped d with
  | case1 | case3 => rfl
  | case2 d hne hdvd ih =>
      obtain ⟨k, hk⟩ := Nat.dvd_of_mod_eq_zero hdvd
      have htenth : 10 * k / 10 = k := Nat.mul_div_cancel_left k (by decide)
      rw [ih]
      simp only [Decimal.toRat, hk, htenth, zpow_add_one₀ (by norm_num : (10 : ℚ) ≠ 0),
        Nat.cast_mul, Nat.cast_ofNat]
      ring

/-- A double rounds to itself. -/
theorem mem_self (m : Nat) (e : Int) : (neighbourhood m e).Mem (m * 2 ^ e) := by
  have hunit : (0 : ℚ) < 2 ^ (e - 2) := by positivity
  have hquarter : (2 : ℚ) ^ e = 4 * 2 ^ (e - 2) := by
    rw [zpow_sub₀ (by norm_num), zpow_ofNat]
    ring
  have hmiddle : (m : ℚ) * 2 ^ e = (4 * m : Nat) * 2 ^ (e - 2) := by
    rw [hquarter]
    push_cast
    ring
  have hlow : (neighbourhood m e).low ≤ 4 * m ∧ (m % 2 ≠ 0 → (neighbourhood m e).low < 4 * m) := by
    simp only [neighbourhood]
    split <;> omega
  rw [hmiddle, Neighbourhood.Mem]
  split
  case isTrue h =>
      refine ⟨mul_le_mul_of_nonneg_right (Nat.cast_le.2 hlow.1) hunit.le,
        mul_le_mul_of_nonneg_right (Nat.cast_le.2 ?_) hunit.le⟩
      simp [neighbourhood]
  case isFalse h =>
      refine ⟨mul_lt_mul_of_pos_right (Nat.cast_lt.2 (hlow.2 ?_)) hunit,
        mul_lt_mul_of_pos_right (Nat.cast_lt.2 ?_) hunit⟩
      · simpa [neighbourhood] using h
      · simp [neighbourhood]

/-- **The shortest decimal** of a double rounds to it. -/
theorem mem_shortest (tie : Tie) (m : Nat) (e : Int) :
    (neighbourhood m e).Mem (shortest tie m e).toRat := by
  simp only [shortest, toRat_stripped]
  cases h : (List.range 17).findSome? fun i : Nat =>
      (neighbourhood m e).onGrid? tie (leadingPower m e - i) with
  | none =>
      rw [Option.getD_none, toRat_exactDecimal]
      exact mem_self m e
  | some d =>
      obtain ⟨i, -, hd⟩ := List.exists_of_findSome?_eq_some h
      exact Neighbourhood.mem_of_onGrid? hd

/-! ### Two doubles -/

/-- The interval of a double ends before that of a greater one begins.  They may meet where one of
the mantissas is odd, whose interval is open. -/
theorem high_le_low {k : Nat} (hc : Canonical m e) (hc' : Canonical m' (e + k))
    (h : 0 < k ∨ k = 0 ∧ m < m') :
    (neighbourhood m e).high ≤ (neighbourhood m' (e + k)).low * 2 ^ k ∧
      (m % 2 = 0 → m' % 2 = 0 →
        (neighbourhood m e).high < (neighbourhood m' (e + k)).low * 2 ^ k) := by
  obtain ⟨hm, he, -, -⟩ := hc
  obtain ⟨-, -, -, hnormal⟩ := hc'
  have hdouble : pow2 53 = 2 * pow2 52 := by decide
  simp only [neighbourhood]
  rw [hdouble] at hm
  generalize pow2 52 = p at hm hnormal ⊢
  rcases h with hk | ⟨rfl, hlt⟩
  · -- twice the lower end is enough, since the greater exponent needs all bits
    have htwo : 2 ≤ 2 ^ k := Nat.le_self_pow (Nat.ne_of_gt hk) 2
    have hp : p ≤ m' := hnormal.resolve_right (by omega)
    split <;> rename_i hgap
    · have := Nat.mul_le_mul_left (4 * m' - 1) htwo
      omega
    · have := Nat.mul_le_mul_left (4 * m' - 2) htwo
      omega
  · split <;> omega

theorem closed_neighbourhood_iff : (neighbourhood m e).closed ↔ m % 2 = 0 := beq_iff_eq

/-- What rounds to the lesser of two doubles is less. -/
theorem lt_of_mem (hc : Canonical m e) (hc' : Canonical m' e') (h : e < e' ∨ e = e' ∧ m < m')
    (hq : (neighbourhood m e).Mem q) (hq' : (neighbourhood m' e').Mem q') : q < q' := by
  obtain ⟨k, rfl⟩ : ∃ k : Nat, e' = e + k := ⟨(e' - e).toNat, by omega⟩
  obtain ⟨hle, hlt⟩ := high_le_low hc hc' (by omega)
  have hunit : (0 : ℚ) < 2 ^ (e - 2) := by positivity
  -- the lower end of the greater double, in the unit of the lesser
  have hlow : ((neighbourhood m' (e + k)).low * 2 ^ k : Nat) * (2 : ℚ) ^ (e - 2) =
      (neighbourhood m' (e + k)).low * 2 ^ (e + k - 2) := by
    rw [Nat.cast_mul, Nat.cast_pow, Nat.cast_ofNat, mul_assoc, ← zpow_natCast,
      ← zpow_add₀ (by norm_num)]
    congr 2
    omega
  have hends : (neighbourhood m e).high * (2 : ℚ) ^ (e - 2) ≤
      (neighbourhood m' (e + k)).low * 2 ^ (e + k - 2) := by
    rw [← hlow]
    exact mul_le_mul_of_nonneg_right (Nat.cast_le.2 hle) hunit.le
  by_cases hm : m % 2 = 0
  · by_cases hm' : m' % 2 = 0
    · refine lt_of_le_of_lt hq.le.2 (lt_of_lt_of_le ?_ hq'.le.1)
      refine lt_of_lt_of_eq ?_ hlow
      exact mul_lt_mul_of_pos_right (Nat.cast_lt.2 (hlt hm hm')) hunit
    · have hopen := hq'.lt (mt closed_neighbourhood_iff.1 hm')
      exact lt_of_le_of_lt hq.le.2 (lt_of_le_of_lt hends hopen.1)
  · have hopen := hq.lt (mt closed_neighbourhood_iff.1 hm)
    exact lt_of_lt_of_le hopen.2 (le_trans hends hq'.le.1)

/-- **A rational number rounds to one double only.** -/
theorem eq_of_mem (hc : Canonical m e) (hc' : Canonical m' e') (hq : (neighbourhood m e).Mem q)
    (hq' : (neighbourhood m' e').Mem q) : m = m' ∧ e = e' := by
  have hnot : ¬ (e < e' ∨ e = e' ∧ m < m') := fun h => lt_irrefl q (lt_of_mem hc hc' h hq hq')
  have hnot' : ¬ (e' < e ∨ e' = e ∧ m' < m) := fun h => lt_irrefl q (lt_of_mem hc' hc h hq' hq)
  omega

end ResourceMoves.Number
