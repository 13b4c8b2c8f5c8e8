import ResourceMoves.Proofs.Text.ByteOrder

/-!
# The bytes of a text

The bytes of a text tell the text (`encode_inj`), and a byte below 128 stands in them just where its
character stands in the text (`mem_encode_iff`): every byte of a character beyond these is above.
-/

namespace ResourceMoves.Text

variable {s t : String} {c d : Char}

theorem encode_empty : encode "" = [] := by
  simp [encode_eq_flatMap]

theorem encode_append (s t : String) : encode (s ++ t) = encode s ++ encode t := by
  simp [encode_eq_flatMap]

/-- **Texts with the same bytes are equal.** -/
theorem encode_inj (h : encode s = encode t) : s = t := by
  rcases lt_trichotomy s t with hlt | heq | hlt
  · exact absurd (h ▸ encode_lt_encode hlt) (List.lt_irrefl _)
  · exact heq
  · exact absurd (h ▸ encode_lt_encode hlt) (List.lt_irrefl _)

theorem utf8EncodeChar_of_lt (h : c.toNat < 128) :
    String.utf8EncodeChar c = [UInt8.ofNat c.toNat] :=
  if_pos (Nat.le_of_lt_succ h)

theorem le_of_mem_utf8EncodeChar {b : UInt8} (h : 128 ≤ c.toNat)
    (hb : b ∈ String.utf8EncodeChar c) : 128 ≤ b.toNat := by
  unfold String.utf8EncodeChar at hb
  change 128 ≤ c.val.toNat at h
  generalize c.val.toNat = v at h hb
  rw [if_neg (by omega)] at hb
  split_ifs at hb
  all_goals
    simp only [List.mem_cons, List.not_mem_nil, or_false] at hb
  · rcases hb with rfl | rfl <;> simp only [UInt8.toNat_ofNat'] <;> omega
  · rcases hb with rfl | rfl | rfl <;> simp only [UInt8.toNat_ofNat'] <;> omega
  · rcases hb with rfl | rfl | rfl | rfl <;> simp only [UInt8.toNat_ofNat'] <;> omega

/-- A byte below 128 is a character of its own. -/
theorem mem_utf8EncodeChar_iff (hd : d.toNat < 128) :
    UInt8.ofNat d.toNat ∈ String.utf8EncodeChar c ↔ c = d := by
  have hbyte {n : Nat} (hn : n < 128) : (UInt8.ofNat n).toNat = n :=
    UInt8.toNat_ofNat_of_lt' (Nat.lt_trans hn (by decide))
  by_cases hc : c.toNat < 128
  · rw [utf8EncodeChar_of_lt hc, List.mem_singleton, ← UInt8.toNat_inj, hbyte hd, hbyte hc,
      Char.toNat_inj, eq_comm]
  · constructor
    · intro h
      have hle := le_of_mem_utf8EncodeChar (Nat.le_of_not_lt hc) h
      rw [hbyte hd] at hle
      exact absurd hd (Nat.not_lt.2 hle)
    · rintro rfl
      exact absurd hd hc

/-- **A byte below 128** stands where its character stands. -/
theorem mem_encode_iff (hd : d.toNat < 128) : UInt8.ofNat d.toNat ∈ encode s ↔ d ∈ s.toList := by
  simp [encode_eq_flatMap, mem_utf8EncodeChar_iff hd]

end ResourceMoves.Text
