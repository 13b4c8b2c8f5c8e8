import Mathlib.Data.List.Basic
import ResourceMoves.Digest.Sha256

/-!
# SHA-256 — the text of a digest

A digest is eight words (`digest`), and its text tells them (`digest_eq_of_hex_eq`): every word
takes eight places, and is the number that its digits spell (`hexValue_wordHex`).  So two sequences
of bytes whose digests read alike have the same digest.
-/

namespace ResourceMoves.Digest.Sha256

variable {bytes bytes' : List UInt8} {x y : UInt32}

/-- The digest of bytes, as eight words. -/
def digest (bytes : List UInt8) : State := blocks start (words (pad bytes))

/-- The number that a hexadecimal digit stands for. -/
def hexPlace (c : Char) : Nat := if c ≤ '9' then c.toNat - '0'.toNat else c.toNat - 'a'.toNat + 10

/-- The number that hexadecimal digits spell. -/
def hexValue (s : List Char) : Nat := s.foldl (fun n c => 16 * n + hexPlace c) 0

/-! ### Words -/

theorem hexPlace_digitChar {d : Nat} (h : d < 16) : hexPlace d.digitChar = d := by
  have hall : ∀ d < 16, hexPlace d.digitChar = d := by decide
  exact hall d h

theorem hexValue_append_singleton (s : List Char) (c : Char) :
    hexValue (s ++ [c]) = 16 * hexValue s + hexPlace c := by
  simp [hexValue]

theorem hexValue_toDigits (n : Nat) : hexValue (Nat.toDigits 16 n) = n := by
  induction n using Nat.strongRecOn with
  | ind n ih =>
      rw [Nat.toDigits_eq_if (by decide)]
      split
      case isTrue h => simp [hexValue, hexPlace_digitChar h]
      case isFalse h =>
        rw [hexValue_append_singleton, ih (n / 16) (by omega), hexPlace_digitChar (by omega)]
        omega

/-- Zeros in front do not matter. -/
theorem hexValue_replicate_append (k : Nat) (s : List Char) :
    hexValue (List.replicate k '0' ++ s) = hexValue s := by
  induction k with
  | zero => rfl
  | succ k ih =>
      rw [List.replicate_succ, List.cons_append, ← ih]
      rfl

/-- **A word is the number that its digits spell.** -/
theorem hexValue_wordHex (x : UInt32) : hexValue (wordHex x) = x.toNat := by
  rw [wordHex, hexValue_replicate_append, hexValue_toDigits]

theorem wordHex_inj (h : wordHex x = wordHex y) : x = y := by
  rw [← UInt32.toNat_inj, ← hexValue_wordHex, h, hexValue_wordHex]

/-- A word takes eight places. -/
theorem length_wordHex (x : UInt32) : (wordHex x).length = 8 := by
  have hlength : (Nat.toDigits 16 x.toNat).length ≤ 8 :=
    (Nat.length_toDigits_le_iff (by decide) (by decide)).2 x.toNat_lt
  simp only [wordHex, List.length_append, List.length_replicate]
  omega

/-! ### Digests -/

/-- Words that follow each other are told by their text. -/
theorem eq_of_flatMap_wordHex_eq {xs ys : List UInt32} (hlength : xs.length = ys.length)
    (h : xs.flatMap wordHex = ys.flatMap wordHex) : xs = ys := by
  induction xs generalizing ys with
  | nil => exact (List.eq_nil_of_length_eq_zero hlength.symm).symm
  | cons x xs ih =>
      cases ys with
      | nil => cases hlength
      | cons y ys =>
          rw [List.flatMap_cons, List.flatMap_cons] at h
          obtain ⟨hword, hrest⟩ :=
            List.append_inj h ((length_wordHex x).trans (length_wordHex y).symm)
          rw [wordHex_inj hword, ih (Nat.succ.inj hlength) hrest]

/-- **The text of a digest tells the digest.** -/
theorem digest_eq_of_hex_eq (h : hex bytes = hex bytes') : digest bytes = digest bytes' := by
  have hwords := eq_of_flatMap_wordHex_eq (by rfl) (String.ofList_inj.1 h)
  simp only [List.cons.injEq, and_true] at hwords
  obtain ⟨ha, hb, hc, hd, he, hf, hg, hh⟩ := hwords
  rw [digest, digest, State.mk.injEq]
  exact ⟨ha, hb, hc, hd, he, hf, hg, hh⟩

end ResourceMoves.Digest.Sha256
