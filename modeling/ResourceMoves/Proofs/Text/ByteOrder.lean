import Mathlib.Data.List.Lex
import Mathlib.Data.String.Basic
import ResourceMoves.Text.Utf8

/-!
# The order of texts by their bytes

Texts are ordered by their code points, which is the order of their UTF-8 bytes
(`encode_lt_encode`).  The bytes of two different characters never stand in the way of those that
follow: they part at some byte, and the character of the smaller code point has the smaller byte
there (`utf8EncodeChar_parts`).

Two lists part when they agree up to a place where both go on, and are told apart there (`Parts`).
That is more than to be in lexicographic order (`Parts.lex`): neither is a prefix of the other
(`Parts.not_prefix`, `Parts.not_suffix`), and it does not matter what follows (`Parts.append`).
-/

namespace ResourceMoves

variable {α : Type} {r : α → α → Prop} {l m : List α}

/-- The lists agree up to a place where both go on, the first with what comes before by `r`. -/
inductive Parts (r : α → α → Prop) : List α → List α → Prop
  | here {a b : α} {l m : List α} (h : r a b) : Parts r (a :: l) (b :: m)
  | later {a : α} {l m : List α} (h : Parts r l m) : Parts r (a :: l) (a :: m)

namespace Parts

theorem lex (h : Parts r l m) : List.Lex r l m := by
  induction h with
  | here h => exact .rel h
  | later _ ih => exact .cons ih

theorem append (h : Parts r l m) (l' m' : List α) : Parts r (l ++ l') (m ++ m') := by
  induction h with
  | here h => exact .here h
  | later _ ih => exact .later ih

theorem not_prefix (irrefl : ∀ a, ¬ r a a) (h : Parts r l m) : ¬ l <+: m ∧ ¬ m <+: l := by
  induction h with
  | here h =>
      constructor <;> intro hp
      · obtain ⟨rfl, -⟩ := List.cons_prefix_cons.1 hp
        exact irrefl _ h
      · obtain ⟨rfl, -⟩ := List.cons_prefix_cons.1 hp
        exact irrefl _ h
  | later _ ih =>
      exact ⟨fun hp => ih.1 (List.cons_prefix_cons.1 hp).2,
        fun hp => ih.2 (List.cons_prefix_cons.1 hp).2⟩

end Parts

end ResourceMoves

namespace ResourceMoves.Text

/-! ### Characters -/

/-- Bytes part at the first, or they have it in common and the others part. -/
theorem parts_cons_ofNat {a b : Nat} {l m : List UInt8} (ha : a < 256) (hb : b < 256)
    (h : a < b ∨ a = b ∧ Parts (· < ·) l m) :
    Parts (· < ·) (UInt8.ofNat a :: l) (UInt8.ofNat b :: m) := by
  rcases h with h | ⟨rfl, h⟩
  · refine .here (UInt8.lt_iff_toNat_lt.2 ?_)
    rwa [UInt8.toNat_ofNat_of_lt' ha, UInt8.toNat_ofNat_of_lt' hb]
  · exact .later h

/-- A byte that holds the last digit to base 64, before bytes that part when the number is the
same. -/
theorem parts_cons_digit {a b : Nat} {l m : List UInt8} (hle : a ≤ b) (hrest : a / 64 = b / 64)
    (h : a = b → Parts (· < ·) l m) :
    Parts (· < ·) (UInt8.ofNat (a % 64 + 128) :: l) (UInt8.ofNat (b % 64 + 128) :: m) := by
  refine parts_cons_ofNat (by omega) (by omega) ?_
  by_cases e : a = b
  · exact .inr ⟨by rw [e], h e⟩
  · exact .inl (by omega)

theorem toNat_lt_of_valid (c : Char) : c.val.toNat < 0x110000 := by
  have h := c.valid
  simp only [UInt32.isValidChar, Nat.isValidChar] at h
  omega

/-- The bytes of two characters part, and those of the smaller one are smaller. -/
theorem utf8EncodeChar_parts {c d : Char} (h : c < d) :
    Parts (· < ·) (String.utf8EncodeChar c) (String.utf8EncodeChar d) := by
  have hlt : c.val.toNat < d.val.toNat := h
  have hd := toNat_lt_of_valid d
  simp only [String.utf8EncodeChar]
  generalize c.val.toNat = v at hlt ⊢
  generalize d.val.toNat = w at hlt hd ⊢
  -- the digits after the first byte, as far as those before them agree
  have last : v / 64 = w / 64 →
      Parts (· < ·) [UInt8.ofNat (v % 64 + 128)] [UInt8.ofNat (w % 64 + 128)] :=
    fun e => parts_cons_digit hlt.le e fun e => absurd e hlt.ne
  have lastTwo : v / 64 / 64 = w / 64 / 64 →
      Parts (· < ·) [UInt8.ofNat (v / 64 % 64 + 128), UInt8.ofNat (v % 64 + 128)]
        [UInt8.ofNat (w / 64 % 64 + 128), UInt8.ofNat (w % 64 + 128)] :=
    fun e => parts_cons_digit (by omega) e last
  have lastThree : v / 4096 / 64 = w / 4096 / 64 →
      Parts (· < ·)
        [UInt8.ofNat (v / 4096 % 64 + 128), UInt8.ofNat (v / 64 % 64 + 128),
          UInt8.ofNat (v % 64 + 128)]
        [UInt8.ofNat (w / 4096 % 64 + 128), UInt8.ofNat (w / 64 % 64 + 128),
          UInt8.ofNat (w % 64 + 128)] :=
    fun e => parts_cons_digit (by omega) e fun e => lastTwo (by omega)
  split_ifs
  -- the smaller character has no more bytes, and when it has fewer its first byte is smaller
  all_goals try omega
  all_goals try exact parts_cons_ofNat (by omega) (by omega) (.inl (by omega))
  · refine parts_cons_ofNat (by omega) (by omega) ?_
    by_cases e : v / 64 = w / 64
    · exact .inr ⟨by rw [e], last e⟩
    · exact .inl (by omega)
  · refine parts_cons_ofNat (by omega) (by omega) ?_
    by_cases e : v / 4096 = w / 4096
    · exact .inr ⟨by rw [e], lastTwo (by omega)⟩
    · exact .inl (by omega)
  · refine parts_cons_ofNat (by omega) (by omega) ?_
    by_cases e : v / 262144 = w / 262144
    · exact .inr ⟨by rw [e], lastThree (by omega)⟩
    · exact .inl (by omega)

/-! ### Texts -/

theorem toList_loop_eq (bytes : ByteArray) (i : Nat) (acc : List UInt8) :
    ByteArray.toList.loop bytes i acc = acc.reverse ++ bytes.data.toList.drop i := by
  fun_induction ByteArray.toList.loop bytes i acc with
  | case1 i acc hlt ih =>
      have hi : i < bytes.data.toList.length := by simpa using hlt
      have hget : bytes.get! i = bytes.data.toList[i] := by
        have h : bytes.get! i = bytes.data[i]! := by cases bytes; rfl
        rw [h, getElem!_pos bytes.data i hlt, Array.getElem_toList]
      rw [ih, List.drop_eq_getElem_cons hi, hget]
      simp
  | case2 i acc hge =>
      rw [List.drop_eq_nil_of_le (by simpa using Nat.le_of_not_lt hge)]
      simp

/-- The bytes of a text are those of its characters. -/
theorem encode_eq_flatMap (s : String) : encode s = s.toList.flatMap String.utf8EncodeChar := by
  have hbytes : s.toByteArray = s.toList.utf8Encode := by
    rw [← String.toByteArray_ofList, String.ofList_toList]
  rw [encode, String.toUTF8_eq_toByteArray, hbytes, ByteArray.toList, toList_loop_eq,
    List.utf8Encode, List.data_toByteArray]
  simp

/-- **Texts are ordered by their bytes.** -/
theorem encode_lt_encode {s t : String} (h : s < t) : encode s < encode t := by
  rw [encode_eq_flatMap, encode_eq_flatMap]
  have hchars : List.Lex (· < ·) s.toList t.toList := String.lt_iff_toList_lt.1 h
  generalize s.toList = cs at hchars
  generalize t.toList = ds at hchars
  induction hchars with
  | @nil d ds =>
      obtain ⟨b, bs, hb⟩ := List.exists_cons_of_ne_nil (@String.utf8EncodeChar_ne_nil d)
      rw [List.flatMap_cons, hb]
      exact .nil
  | @rel c cs d ds hlt =>
      rw [List.flatMap_cons, List.flatMap_cons]
      exact ((utf8EncodeChar_parts hlt).append _ _).lex
  | @cons c cs ds _ ih =>
      rw [List.flatMap_cons, List.flatMap_cons]
      exact List.Lex.append_left _ ih _

end ResourceMoves.Text
