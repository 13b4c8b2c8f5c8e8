import ResourceMoves.Number.Digits
import ResourceMoves.Text.Blank

/-!
# Unsigned 64-bit numbers as texts

Which number a text spells (`SpellsWord`), said without a look at how it is read: digits, as many
zeros in front as one likes, and at most one plus sign before them.  Reading finds that number and
no other (`word?_eq_some_iff`).  The decimal digits of a number spell it, unless it is too large,
and spell nothing else (`spellsWord_digits_iff`).
-/

namespace ResourceMoves.Number

variable {s ds : List Char} {i n : Nat}

/-- The digits are those of the number, which has no more than 64 bits. -/
structure DigitsOfWord (ds : List Char) (n : Nat) : Prop where
  ne_nil   : ds ≠ []
  digits   : ∀ c ∈ ds, isDigit c
  value_eq : value ds = n
  lt       : n < pow2 64

/-- The text spells the number: its digits, with a plus sign in front or without. -/
inductive SpellsWord : List Char → Nat → Prop
  | bare {ds : List Char} {n : Nat} (h : DigitsOfWord ds n) : SpellsWord ds n
  | signed {ds : List Char} {n : Nat} (h : DigitsOfWord ds n) : SpellsWord ('+' :: ds) n

theorem not_digitsOfWord_plus : ¬ DigitsOfWord ('+' :: ds) n := fun h =>
  absurd (h.digits '+' List.mem_cons_self) (by decide)

theorem spellsWord_plus_iff : SpellsWord ('+' :: ds) n ↔ DigitsOfWord ds n := by
  constructor
  · intro h
    cases h with
    | bare h => exact absurd h not_digitsOfWord_plus
    | signed h => exact h
  · exact .signed

theorem spellsWord_iff_of_not_plus (hs : ∀ r, s ≠ '+' :: r) :
    SpellsWord s n ↔ DigitsOfWord s n := by
  constructor
  · intro h
    cases h with
    | bare h => exact h
    | signed h => exact absurd rfl (hs _)
  · exact .bare

theorem digitsOfWord_iff : DigitsOfWord ds n ↔
    (if !ds.isEmpty && ds.all isDigit && value ds < pow2 64 then some (value ds) else none) =
      some n := by
  rw [Option.ite_none_right_eq_some]
  simp only [Bool.and_eq_true, Bool.not_eq_true', List.isEmpty_eq_false_iff, List.all_eq_true,
    decide_eq_true_eq, Option.some.injEq]
  constructor
  · rintro ⟨hne, hdigits, rfl, hlt⟩
    exact ⟨⟨⟨hne, hdigits⟩, hlt⟩, rfl⟩
  · rintro ⟨⟨⟨hne, hdigits⟩, hlt⟩, rfl⟩
    exact ⟨hne, hdigits, rfl, hlt⟩

/-- **Reading a word** gives the number that the text spells, and nothing if it spells none. -/
theorem word?_eq_some_iff : word? s = some n ↔ SpellsWord s n := by
  unfold word?
  split
  case h_1 r => exact digitsOfWord_iff.symm.trans spellsWord_plus_iff.symm
  case h_2 hs => exact digitsOfWord_iff.symm.trans (spellsWord_iff_of_not_plus hs).symm

/-- A text spells at most one number. -/
theorem SpellsWord.unique (hn : SpellsWord s n) (hi : SpellsWord s i) : n = i :=
  Option.some.inj ((word?_eq_some_iff.2 hn).symm.trans (word?_eq_some_iff.2 hi))

theorem isDigit_of_mem_digits {c : Char} (h : c ∈ digits n) : isDigit c :=
  List.all_eq_true.1 (digits_all n) c h

theorem lineFeed_not_mem_digits (n : Nat) : '\n' ∉ digits n := fun h =>
  absurd (isDigit_of_mem_digits h) (by decide)

/-- The digits are ten code points in a row. -/
theorem toNat_of_isDigit {c : Char} (h : isDigit c) : 48 ≤ c.toNat ∧ c.toNat ≤ 57 := by
  simp only [isDigit, Bool.and_eq_true, decide_eq_true_eq] at h
  exact ⟨UInt32.le_iff_toNat_le.1 h.1, UInt32.le_iff_toNat_le.1 h.2⟩

/-- A digit is not white space. -/
theorem isBlank_of_isDigit {c : Char} (h : isDigit c) : Text.isBlank c = false := by
  have := toNat_of_isDigit h
  simp [Text.isBlank, Text.blankRanges]
  omega

theorem SpellsWord.lt (h : SpellsWord s n) : n < pow2 64 := by
  cases h with
  | bare h => exact h.lt
  | signed h => exact h.lt

/-- There is no white space in what spells a number. -/
theorem SpellsWord.isBlank_of_mem (h : SpellsWord s n) : ∀ c ∈ s, Text.isBlank c = false := by
  cases h with
  | bare h => exact fun c hc => isBlank_of_isDigit (h.digits c hc)
  | signed h =>
      exact List.forall_mem_cons.2 ⟨rfl, fun c hc => isBlank_of_isDigit (h.digits c hc)⟩

/-- The digits of a number are the digits of a word, unless it is too large. -/
theorem digitsOfWord_digits (h : n < pow2 64) : DigitsOfWord (digits n) n where
  ne_nil   := digits_ne_nil n
  digits   := fun _ => isDigit_of_mem_digits
  value_eq := value_digits n
  lt       := h

/-- The digits of a number spell that number. -/
theorem spellsWord_digits_iff : SpellsWord (digits i) n ↔ n = i ∧ i < pow2 64 := by
  have hplus : ∀ r, digits i ≠ '+' :: r := fun r h =>
    absurd (isDigit_of_mem_digits (h ▸ List.mem_cons_self)) (by decide)
  constructor
  · intro h
    obtain ⟨-, -, rfl, hlt⟩ := (spellsWord_iff_of_not_plus hplus).1 h
    rw [value_digits] at hlt ⊢
    exact ⟨rfl, hlt⟩
  · rintro ⟨rfl, hlt⟩
    exact .bare (digitsOfWord_digits hlt)

end ResourceMoves.Number
