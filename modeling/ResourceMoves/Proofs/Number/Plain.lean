import Mathlib.Data.List.Induction
import ResourceMoves.Number.Notation
import ResourceMoves.Proofs.Number.Nearest
import ResourceMoves.Proofs.Number.Word
import ResourceMoves.Proofs.Text.Quoting

/-!
# Plain numbers are unambiguous

What digits with a point between them spell (`SpellsDecimal`), and that **the plain text of a finite
double spells a number that rounds to it** (`spells_magnitude`).  Digits and a point end where
something else begins, and a sign is no digit, so the text tells the double and where it ends
(`plain_append_inj`).
-/

namespace ResourceMoves.Number

variable {s t w f r r' : List Char} {q q' : ℚ}

/-! ### What digits spell -/

/-- The digits spell the number, all of them before the point or some after it. -/
inductive SpellsDecimal : List Char → ℚ → Prop
  | whole {w : List Char} (hne : w ≠ []) (hw : ∀ c ∈ w, isDigit c) : SpellsDecimal w (value w)
  | pointed {w f : List Char} (hne : w ≠ []) (hw : ∀ c ∈ w, isDigit c) (hf : ∀ c ∈ f, isDigit c) :
      SpellsDecimal (w ++ '.' :: f) (value (w ++ f) / 10 ^ f.length)

theorem spellsDecimal_point {v k : Nat} (hne : w ≠ []) (hw : ∀ c ∈ w, isDigit c)
    (hf : ∀ c ∈ f, isDigit c) (hv : value (w ++ f) = v) (hk : f.length = k) :
    SpellsDecimal (w ++ '.' :: f) (v / 10 ^ k) := by
  rw [← hv, ← hk]
  exact .pointed hne hw hf

/-- The text starts with nothing that could be more of a number. -/
def EndsNumber (r : List Char) : Prop := ∀ c ∈ r.head?, ¬ isDigit c ∧ c ≠ '.'

theorem not_endsNumber_point (r : List Char) : ¬ EndsNumber ('.' :: r) :=
  fun h => (h '.' rfl).2 rfl

/-- **Digits and a point** tell the number that they spell and where they end. -/
theorem SpellsDecimal.append_inj (hs : SpellsDecimal s q) (ht : SpellsDecimal t q')
    (hr : EndsNumber r) (hr' : EndsNumber r') (h : s ++ r = t ++ r') : q = q' ∧ r = r' := by
  have hend : ∀ c ∈ r.head?, ¬ isDigit c := fun c hc => (hr c hc).1
  have hend' : ∀ c ∈ r'.head?, ¬ isDigit c := fun c hc => (hr' c hc).1
  have hpoint (f r : List Char) : ∀ c ∈ ('.' :: (f ++ r)).head?, ¬ isDigit c := by
    rintro _ ⟨⟩
    decide
  cases hs with
  | whole _ hw =>
      cases ht with
      | whole _ hw' =>
          obtain ⟨rfl, hrest⟩ := Text.run_append_inj hw hw' hend hend' h
          exact ⟨rfl, hrest⟩
      | @pointed w' f' _ hw' hf' =>
          rw [List.append_assoc] at h
          obtain ⟨-, rfl⟩ := Text.run_append_inj hw hw' hend (hpoint f' r') h
          exact absurd hr (not_endsNumber_point _)
  | @pointed w f _ hw hf =>
      cases ht with
      | whole _ hw' =>
          rw [List.append_assoc] at h
          obtain ⟨-, rfl⟩ := Text.run_append_inj hw hw' (hpoint f r) hend' h
          exact absurd hr' (not_endsNumber_point _)
      | @pointed w' f' _ hw' hf' =>
          rw [List.append_assoc, List.append_assoc] at h
          obtain ⟨rfl, htail⟩ := Text.run_append_inj hw hw' (hpoint f r) (hpoint f' r') h
          obtain ⟨rfl, hrest⟩ := Text.run_append_inj hf hf' hend hend' (List.cons.inj htail).2
          exact ⟨rfl, hrest⟩

/-- It starts with a digit. -/
theorem SpellsDecimal.exists_cons (h : SpellsDecimal s q) : ∃ c u, s = c :: u ∧ isDigit c := by
  cases h with
  | whole hne hw =>
      obtain ⟨c, w, rfl⟩ := List.exists_cons_of_ne_nil hne
      exact ⟨c, w, rfl, hw c List.mem_cons_self⟩
  | pointed hne hw =>
      obtain ⟨c, w, rfl⟩ := List.exists_cons_of_ne_nil hne
      exact ⟨c, _, rfl, hw c List.mem_cons_self⟩

theorem SpellsDecimal.lineFeed_not_mem (h : SpellsDecimal s q) : '\n' ∉ s := by
  have hdigits {w : List Char} (hw : ∀ c ∈ w, isDigit c) : '\n' ∉ w := fun h =>
    absurd (hw _ h) (by decide)
  cases h with
  | whole _ hw => exact hdigits hw
  | pointed _ hw hf => simp [hdigits hw, hdigits hf]

/-! ### Decimals without an exponent -/

theorem value_append (s t : List Char) : value (s ++ t) = value s * 10 ^ t.length + value t := by
  induction t using List.reverseRecOn with
  | nil => simp [value]
  | append_singleton t c ih =>
      rw [← List.append_assoc, value_append_singleton, value_append_singleton, ih,
        List.length_append, List.length_singleton, pow_succ]
      ring

theorem value_replicate_zero (k : Nat) : value (List.replicate k '0') = 0 := by
  induction k with
  | zero => rfl
  | succ k ih => rw [List.replicate_succ', value_append_singleton, ih]; rfl

theorem isDigit_of_mem_replicate {k : Nat} {c : Char} (h : c ∈ List.replicate k '0') :
    isDigit c := by
  rw [List.eq_of_mem_replicate h]
  rfl

/-- Zeros in front of its digits spell the same number. -/
theorem digitsOfWord_zeros {n : Nat} (k : Nat) (h : n < pow2 64) :
    DigitsOfWord (List.replicate k '0' ++ digits n) n where
  ne_nil   := by simp [digits_ne_nil]
  digits   := fun _ hc => (List.mem_append.1 hc).elim isDigit_of_mem_replicate isDigit_of_mem_digits
  value_eq := by
    rw [value_append, value_replicate_zero, value_digits, Nat.zero_mul, Nat.zero_add]
  lt       := h

namespace Decimal

variable (d : Decimal)

theorem value_figures : value d.figures = d.digits := value_digits d.digits

theorem toRat_of_whole {d : Decimal} (h : 0 ≤ d.power) :
    d.toRat = (d.digits * 10 ^ d.power.toNat : Nat) := by
  rw [toRat, Nat.cast_mul, Nat.cast_pow, ← zpow_natCast, Int.toNat_of_nonneg h, Nat.cast_ofNat]

theorem toRat_of_fraction {d : Decimal} (h : ¬ 0 ≤ d.power) :
    d.toRat = d.digits / 10 ^ (-d.power).toNat := by
  rw [toRat, div_eq_mul_inv, ← zpow_natCast, ← zpow_neg]
  congr 2
  omega

/-- **A decimal without an exponent** spells the number. -/
theorem spells_positional : SpellsDecimal d.positional d.toRat := by
  have hfigures : ∀ c ∈ d.figures, isDigit c := fun c => isDigit_of_mem_digits
  have hne : d.figures ≠ [] := digits_ne_nil d.digits
  unfold positional
  split
  case isTrue hwhole =>
      have hvalue : value (d.figures ++ List.replicate d.power.toNat '0') =
          d.digits * 10 ^ d.power.toNat := by
        rw [value_append, value_replicate_zero, value_figures, List.length_replicate, Nat.add_zero]
      rw [toRat_of_whole hwhole, ← hvalue]
      refine .whole (List.append_ne_nil_of_left_ne_nil hne _) fun c hc => ?_
      exact (List.mem_append.1 hc).elim (hfigures c) isDigit_of_mem_replicate
  case isFalse hfraction =>
      rw [toRat_of_fraction hfraction, ← value_figures]
      dsimp only
      split
      case isTrue hsmall =>
          -- all the figures stand after the point, with zeros before them
          refine spellsDecimal_point (w := ['0'])
            (f := List.replicate ((-d.power).toNat - d.figures.length) '0' ++ d.figures)
            (List.cons_ne_nil _ _) (List.forall_mem_singleton.2 rfl) (fun c hc => ?_) ?_ ?_
          · exact (List.mem_append.1 hc).elim isDigit_of_mem_replicate (hfigures c)
          · rw [value_append, value_append, value_replicate_zero]
            simp [value, digitValue]
          · rw [List.length_append, List.length_replicate]
            omega
      case isFalse hlarge =>
          refine spellsDecimal_point (fun h => ?_)
            (fun c hc => hfigures c (List.mem_of_mem_take hc))
            (fun c hc => hfigures c (List.mem_of_mem_drop hc)) ?_ ?_
          · exact (List.take_eq_nil_iff.1 h).elim hlarge hne
          · rw [List.take_append_drop]
          · rw [List.length_drop]
            omega

end Decimal

/-! ### Doubles -/

namespace Binary64

variable {x y : Binary64} {m : Nat} {e : Int}

/-- The digits of a double spell a number that rounds to it. -/
theorem spells_magnitude (m : Nat) (e : Int) : ∃ q, (neighbourhood m e).Mem q ∧
    SpellsDecimal (if m = 0 then ['0'] else (shortest .up m e).positional) q := by
  split
  case isTrue h =>
      subst h
      refine ⟨_, mem_self 0 e, ?_⟩
      have hzero : ((0 : Nat) : ℚ) * 2 ^ e = (value ['0'] : Nat) := by
        rw [Nat.cast_zero, zero_mul]
        rfl
      rw [hzero]
      exact .whole (List.cons_ne_nil _ _) (List.forall_mem_singleton.2 rfl)
  case isFalse h => exact ⟨_, mem_shortest .up m e, (shortest .up m e).spells_positional⟩

theorem signText_append_inj {n n' : Bool} (hs : SpellsDecimal s q) (ht : SpellsDecimal t q')
    (h : signText n ++ (s ++ r) = signText n' ++ (t ++ r')) : n = n' ∧ s ++ r = t ++ r' := by
  obtain ⟨c, u, rfl, hc⟩ := hs.exists_cons
  obtain ⟨d, v, rfl, hd⟩ := ht.exists_cons
  cases n <;> cases n'
  · exact ⟨rfl, h⟩
  · obtain ⟨rfl, -⟩ := List.cons.inj h
    exact absurd hc (by decide)
  · obtain ⟨rfl, -⟩ := List.cons.inj h
    exact absurd hd (by decide)
  · exact ⟨rfl, (List.cons.inj h).2⟩

/-- **The plain text of a finite double** tells the double and where it ends. -/
theorem plain_append_inj (hx : x.isFinite) (hy : y.isFinite) (hr : EndsNumber r)
    (hr' : EndsNumber r') (h : x.plain ++ r = y.plain ++ r') : x = y ∧ r = r' := by
  cases x with
  | nan | infinite => cases hx
  | finite n m e hc =>
      cases y with
      | nan | infinite => cases hy
      | finite n' m' e' hc' =>
          simp only [plain, List.append_assoc] at h
          obtain ⟨q, hq, hs⟩ := spells_magnitude m e
          obtain ⟨q', hq', ht⟩ := spells_magnitude m' e'
          obtain ⟨rfl, hmagnitude⟩ := signText_append_inj hs ht h
          obtain ⟨rfl, hrest⟩ := hs.append_inj ht hr hr' hmagnitude
          obtain ⟨rfl, rfl⟩ := eq_of_mem hc hc' hq hq'
          exact ⟨rfl, hrest⟩

/-- The plain text of a finite double starts with a sign or a digit. -/
theorem exists_cons_plain (hx : x.isFinite) : ∃ c u, x.plain = c :: u ∧ (c = '-' ∨ isDigit c) := by
  cases x with
  | nan | infinite => cases hx
  | finite n m e hc =>
      obtain ⟨q, -, hs⟩ := spells_magnitude m e
      obtain ⟨c, u, hcons, hc⟩ := hs.exists_cons
      rw [plain, hcons]
      cases n with
      | true => exact ⟨'-', _, rfl, .inl rfl⟩
      | false => exact ⟨c, u, rfl, .inr hc⟩

/-- The plain text of a number stands on one line. -/
theorem lineFeed_not_mem_plain (x : Binary64) : '\n' ∉ x.plain := by
  have hsign (n : Bool) : '\n' ∉ signText n := by cases n <;> decide
  cases x with
  | nan => decide
  | infinite n => simp [plain, hsign]
  | finite n m e =>
      obtain ⟨q, -, hs⟩ := spells_magnitude m e
      simp only [plain, List.mem_append, hsign, hs.lineFeed_not_mem, or_self, not_false_eq_true]

end Binary64

end ResourceMoves.Number
