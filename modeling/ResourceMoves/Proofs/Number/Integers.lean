import ResourceMoves.Number.Rounding

/-!
# Whole numbers as doubles

Reading an integer as a double, at both ends of the range that matters.  In units in which it has
53 bits before the point (`exponentOf_one`) an integer of up to 64 bits rounds to a mantissa of the
format, so **an integer that is read is finite** (`isFinite_ofInt`).  Below 2⁵³ nothing is rounded:
a double has only one canonical form, and the integer leads back to it.  So **a whole double is
the double of its integer** (`ofInt_of_whole?`), but for the sign of a zero, which no integer has
(`ofInt_agrees_of_whole?`).
-/

namespace ResourceMoves.Number

variable {k t : Nat}

/-! ### Rounding -/

theorem le_roundHalfEven (p q : Nat) : p / q ≤ roundHalfEven p q := by
  simp only [roundHalfEven]
  split
  · exact Nat.le_refl _
  · split <;> omega

theorem roundHalfEven_le (p q : Nat) : roundHalfEven p q ≤ p / q + 1 := by
  simp only [roundHalfEven]
  split
  · omega
  · split <;> omega

theorem roundHalfEven_one (p : Nat) : roundHalfEven p 1 = p := by
  simp [roundHalfEven, Nat.mod_one]

/-! ### The exponent of an integer -/

/-- In units of the power `j` below its first bit, an integer has `j + 1` bits before the point. -/
theorem inUnits_bits (hk : 0 < k) (j : Nat) :
    pow2 j ≤ (inUnits k 1 (k.log2 - j)).1 / (inUnits k 1 (k.log2 - j)).2 ∧
      (inUnits k 1 (k.log2 - j)).1 / (inUnits k 1 (k.log2 - j)).2 < pow2 (j + 1) := by
  have hlow : 2 ^ k.log2 ≤ k := Nat.log2_self_le (Nat.ne_of_gt hk)
  have hhigh : k < 2 ^ (k.log2 + 1) := Nat.lt_log2_self
  unfold inUnits
  split
  case isTrue h =>
      have hunits : ((k.log2 : Int) - j).toNat = k.log2 - j := by omega
      simp only [hunits, Nat.one_mul]
      have hpos : 0 < 2 ^ (k.log2 - j) := Nat.two_pow_pos _
      refine ⟨(Nat.le_div_iff_mul_le hpos).2 ?_, (Nat.div_lt_iff_lt_mul hpos).2 ?_⟩
      · refine Nat.le_trans (Nat.le_of_eq ?_) hlow
        exact (Nat.pow_add 2 j _).symm.trans (congrArg (2 ^ ·) (by omega))
      · refine Nat.lt_of_lt_of_eq hhigh ?_
        exact (congrArg (2 ^ ·) (by omega)).trans (Nat.pow_add 2 (j + 1) _)
  case isFalse h =>
      have hunits : (-((k.log2 : Int) - j)).toNat = j - k.log2 := by omega
      simp only [hunits, Nat.div_one]
      have hpos : 0 < 2 ^ (j - k.log2) := Nat.two_pow_pos _
      constructor
      · refine Nat.le_trans (Nat.le_of_eq ?_) (Nat.mul_le_mul_right _ hlow)
        exact (congrArg (2 ^ ·) (by omega)).trans (Nat.pow_add 2 k.log2 _)
      · refine Nat.lt_of_lt_of_eq (Nat.mul_lt_mul_of_pos_right hhigh hpos) ?_
        exact (Nat.pow_add 2 (k.log2 + 1) _).symm.trans (congrArg (2 ^ ·) (by omega))

/-- The exponent of an integer leaves 53 bits before the point. -/
theorem exponentOf_one (hk : 0 < k) : exponentOf k 1 = k.log2 - 52 := by
  have hstart : max minExponent ((k.log2 : Int) - (1 : Nat).log2 - 53) = k.log2 - (53 : Nat) := by
    have hone : (1 : Nat).log2 = 0 := rfl
    rw [hone, minExponent]
    omega
  simp only [exponentOf, hstart]
  rw [if_pos (inUnits_bits hk 53).1]
  omega

/-! ### What an integer is read as -/

namespace Binary64

variable {negative : Bool} {x : Binary64} {i : Int}

theorem ofParts_of_canonical {m : Nat} {e : Int} (h : Canonical m e) :
    ofParts negative m e = .finite negative m e h := dif_pos h

/-- An integer that is not too large is a finite double. -/
theorem isFinite_ofRatio_one (hk : 0 < k) (hsize : k.log2 < 1000) :
    (ofRatio negative k 1).isFinite := by
  obtain ⟨hlow, hhigh⟩ := inUnits_bits hk 52
  have hround := roundHalfEven_le (inUnits k 1 (k.log2 - (52 : Nat))).1
    (inUnits k 1 (k.log2 - (52 : Nat))).2
  have hfloor := le_roundHalfEven (inUnits k 1 (k.log2 - (52 : Nat))).1
    (inUnits k 1 (k.log2 - (52 : Nat))).2
  simp only [ofRatio, if_neg (Nat.ne_of_gt hk), exponentOf_one hk]
  split
  case isTrue h =>
      rw [ofParts_of_canonical]
      · rfl
      · exact ⟨by decide, by rw [minExponent]; omega, by rw [maxExponent]; omega,
          .inl (Nat.le_refl _)⟩
  case isFalse h =>
      rw [ofParts_of_canonical]
      · rfl
      · exact ⟨Nat.lt_of_le_of_ne (Nat.le_trans hround hhigh) h, by rw [minExponent]; omega,
          by rw [maxExponent]; omega, .inl (Nat.le_trans hlow hfloor)⟩

/-- **An integer that is read is finite.** -/
theorem isFinite_ofInt (h : i.natAbs < pow2 65) : (ofInt i).isFinite := by
  rw [ofInt]
  by_cases hi : i.natAbs = 0
  · rw [ofRatio, if_pos hi]
    rfl
  · have hlog : i.natAbs.log2 < 65 := (Nat.log2_lt hi).2 h
    exact isFinite_ofRatio_one (Nat.pos_of_ne_zero hi) (by omega)

/-! ### Integers that need no rounding -/

/-- The mantissa of a double that is a positive integer has all its 53 bits. -/
theorem log2_of_canonical (hk : 0 < k) (h : Canonical (k * pow2 t) (-t)) :
    (k.log2 : Int) - 52 = -t := by
  obtain ⟨hhigh, -, -, hlow⟩ := h
  have ht : t < 53 := by
    refine (Nat.pow_lt_pow_iff_right (by decide : 1 < 2)).1 (Nat.lt_of_le_of_lt ?_ hhigh)
    exact Nat.le_mul_of_pos_left _ hk
  -- with the least exponent the number would be a fraction
  have hbits : 2 ^ 52 ≤ k * 2 ^ t := hlow.resolve_right fun he => by
    rw [minExponent] at he
    omega
  have hpos : 0 < 2 ^ t := Nat.two_pow_pos t
  have hlog : k.log2 = 52 - t := by
    refine (Nat.log2_eq_iff (Nat.ne_of_gt hk)).2 ⟨?_, ?_⟩
    · refine Nat.le_of_mul_le_mul_right (Nat.le_trans (Nat.le_of_eq ?_) hbits) hpos
      exact (Nat.pow_add 2 _ t).symm.trans (congrArg (2 ^ ·) (by omega))
    · refine Nat.lt_of_mul_lt_mul_right (Nat.lt_of_lt_of_eq hhigh ?_)
      exact (congrArg (2 ^ ·) (by omega)).trans (Nat.pow_add 2 _ t)
  omega

/-- An integer in the form of a double is read as that double. -/
theorem ofRatio_one (hk : 0 < k) (h : Canonical (k * pow2 t) (-t)) :
    ofRatio negative k 1 = .finite negative (k * pow2 t) (-t) h := by
  have hunits : inUnits k 1 (-t) = (k * pow2 t, 1) := by
    rw [inUnits]
    split
    case isTrue ht =>
        have ht : t = 0 := by omega
        subst ht
        simp
    case isFalse => simp
  have hnext : k * pow2 t ≠ pow2 53 := Nat.ne_of_lt h.1
  simp only [ofRatio, if_neg (Nat.ne_of_gt hk), exponentOf_one hk, log2_of_canonical hk h, hunits,
    roundHalfEven_one, if_neg hnext, ofParts_of_canonical h]

/-- A whole double below 2⁵³ has the bits of its integer, moved up to the top of the mantissa. -/
theorem exists_of_whole? {m : Nat} {e : Int} {hc : Canonical m e}
    (h : (finite negative m e hc).whole? = some i) (hi : i.natAbs < pow2 53) :
    ∃ t : Nat, e = -t ∧ m = i.natAbs * pow2 t ∧
      i = if negative then -(i.natAbs : Int) else i.natAbs := by
  obtain ⟨_, hmagnitude, hsign⟩ := Option.map_eq_some_iff.1 h
  obtain ⟨k, hk, hcast⟩ := Option.bind_eq_some_iff.1 hmagnitude
  clear hmagnitude
  cases hcast
  have habs : i.natAbs = k := by
    cases negative <;> simp only [Bool.false_eq_true, if_true, if_false] at hsign <;> omega
  rw [habs]
  rw [habs] at hi
  split at hk
  case isTrue he =>
      -- above the least exponent all bits are in use, so a greater one than zero is too much
      have hbits : pow2 52 ≤ m := hc.2.2.2.resolve_right fun hleast => by
        rw [minExponent] at hleast
        omega
      have hzero : e.toNat = 0 := by
        refine Nat.eq_zero_of_not_pos fun hpos => ?_
        have htwo : 2 ≤ pow2 e.toNat := Nat.le_self_pow (Nat.ne_of_gt hpos) 2
        have hlarge : pow2 52 * 2 ≤ m * pow2 e.toNat := Nat.mul_le_mul hbits htwo
        rw [Option.some.inj hk] at hlarge
        exact absurd hi (Nat.not_lt.2 hlarge)
      refine ⟨0, by omega, ?_, hsign.symm⟩
      rw [← Option.some.inj hk, hzero]
      simp
  case isFalse he =>
      split at hk
      case isTrue hdvd =>
          refine ⟨(-e).toNat, by omega, ?_, hsign.symm⟩
          rw [← Option.some.inj hk]
          exact (Nat.div_mul_cancel (Nat.dvd_of_mod_eq_zero hdvd)).symm
      case isFalse => cases hk

/-- **A whole double** below 2⁵³ is the double of its integer, unless that is zero. -/
theorem ofInt_of_whole? (h : x.whole? = some i) (hi : i.natAbs < pow2 53) (hne : i ≠ 0) :
    ofInt i = x := by
  cases x with
  | nan | infinite => cases h
  | finite negative m e hc =>
      obtain ⟨t, rfl, rfl, hsign⟩ := exists_of_whole? h hi
      have hnegative : decide (i < 0) = negative := by
        cases negative <;> simp only [Bool.false_eq_true, if_true, if_false] at hsign <;>
          simp <;> omega
      rw [ofInt, hnegative, ofRatio_one (Int.natAbs_pos.2 hne) hc]

/-- Also a zero agrees with the double of its integer, whatever its sign. -/
theorem ofInt_agrees_of_whole? (h : x.whole? = some i) (hi : i.natAbs < pow2 53) :
    (ofInt i).agrees x := by
  by_cases hne : i = 0
  · subst hne
    cases x with
    | nan | infinite => cases h
    | finite negative m e hc =>
        obtain ⟨t, rfl, rfl, -⟩ := exists_of_whole? h hi
        have hleast : -(t : Int) = minExponent := hc.2.2.2.resolve_left (by simp)
        simp [ofInt, ofRatio, zero, agrees, hleast]
  · rw [ofInt_of_whole? h hi hne]
    cases x with
    | nan | infinite => cases h
    | finite => exact agrees_self (by simp)

end Binary64

end ResourceMoves.Number
