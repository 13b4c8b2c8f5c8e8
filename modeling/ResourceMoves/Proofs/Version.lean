import Mathlib.Data.List.TakeWhile
import Mathlib.Data.Prod.Lex
import ResourceMoves.Fault
import ResourceMoves.Proofs.Number.Word
import ResourceMoves.Proofs.Text.Lines
import ResourceMoves.Proofs.Text.Trim

/-!
# Planner versions — their texts and their order

A text that is trimmed has at most one mark, a `v` in front; then its core; and then, from the first
sign on, a suffix (`HasCore`).  **Which version a text stands for is up to its core alone**
(`read_eq_ok_iff`): cut at the dots it is two or three runs of digits (`Spells`).  The text that a
version is shown as stands for that version (`read_display_iff`).

Versions are ordered as their numbers are, lexicographically (`le_iff_key_le`), and those with
`moved` blocks are the ones from 1.1 on, so a higher version never loses them
(`requireMovedBlocks_mono`).
-/

namespace ResourceMoves.Version

open ResourceMoves.Number (DigitsOfWord SpellsWord pow2)

variable {s c t : List Char} {text : String} {v w : Version} {parts : List (List Char)}

/-! ### The grammar -/

/-- A sign, which begins a suffix. -/
def IsSign (x : Char) : Prop := x = '-' ∨ x = '+'

/-- The text has this core: around it, white space aside, are a `v` at most, which is no part of the
core if it is there, and a suffix, which begins with the first sign. -/
def HasCore (s c : List Char) : Prop :=
  ∃ mark suffix, Text.trim s = mark ++ (c ++ suffix) ∧
    (mark = ['v'] ∨ mark = [] ∧ (c ++ suffix).head? ≠ some 'v') ∧
    (∀ x ∈ c, ¬ IsSign x) ∧ ∀ x ∈ suffix.head?, IsSign x

/-- The parts are digits and stand for the numbers of the version; the last can be left out and is
zero then. -/
inductive Spells : List (List Char) → Version → Prop
  | two {a b : List Char} {x y : Nat} (ha : DigitsOfWord a x) (hb : DigitsOfWord b y) :
      Spells [a, b] ⟨x, y, 0⟩
  | three {a b c : List Char} {x y z : Nat} (ha : DigitsOfWord a x) (hb : DigitsOfWord b y)
      (hc : DigitsOfWord c z) : Spells [a, b, c] ⟨x, y, z⟩

/-- The numbers of the version have no more than 64 bits. -/
structure IsWords (v : Version) : Prop where
  major : v.major < pow2 64
  minor : v.minor < pow2 64
  patch : v.patch < pow2 64

/-! ### The core -/

/-- The text after the mark. -/
def unmarked (t : List Char) : List Char :=
  match t with
  | 'v' :: r => r
  | r        => r

theorem unmarked_append {mark r : List Char}
    (h : mark = ['v'] ∨ mark = [] ∧ r.head? ≠ some 'v') : unmarked (mark ++ r) = r := by
  rcases h with rfl | ⟨rfl, hr⟩
  · rfl
  · unfold unmarked
    split
    case h_1 r' hr' =>
      rw [List.nil_append] at hr'
      exact absurd (hr' ▸ rfl) hr
    case h_2 => rfl

theorem exists_mark (t : List Char) : ∃ mark, t = mark ++ unmarked t ∧
    (mark = ['v'] ∨ mark = [] ∧ (unmarked t).head? ≠ some 'v') := by
  unfold unmarked
  split
  case h_1 r => exact ⟨['v'], rfl, .inl rfl⟩
  case h_2 hne =>
    refine ⟨[], rfl, .inr ⟨rfl, fun h => ?_⟩⟩
    obtain ⟨r, rfl⟩ := List.head?_eq_some_iff.1 h
    exact hne r rfl

/-- No sign. -/
def unsigned (x : Char) : Bool := x != '-' && x != '+'

theorem unsigned_iff {x : Char} : unsigned x ↔ ¬ IsSign x := by
  simp [unsigned, IsSign]

theorem core_eq (s : List Char) : core s = (unmarked (Text.trim s)).takeWhile unsigned := rfl

/-- Each text has one core, and it is the part that is read. -/
theorem hasCore_iff : HasCore s c ↔ c = core s := by
  rw [core_eq]
  constructor
  · rintro ⟨mark, suffix, htrim, hmark, hc, hsuffix⟩
    rw [htrim, unmarked_append hmark,
      List.takeWhile_append_of_pos fun x hx => unsigned_iff.2 (hc x hx)]
    cases suffix with
    | nil => rw [List.takeWhile_nil, List.append_nil]
    | cons x suffix =>
        have hx : IsSign x := hsuffix x rfl
        rw [List.takeWhile_cons_of_neg fun h => unsigned_iff.1 h hx, List.append_nil]
  · rintro rfl
    obtain ⟨mark, htrim, hmark⟩ := exists_mark (Text.trim s)
    set r := unmarked (Text.trim s)
    have hr : r.takeWhile unsigned ++ r.dropWhile unsigned = r := List.takeWhile_append_dropWhile
    refine ⟨mark, r.dropWhile unsigned, hr.symm ▸ htrim, hr.symm ▸ hmark,
      fun x hx => unsigned_iff.1 (List.mem_takeWhile_imp hx), fun x hx => ?_⟩
    have hhead := List.head?_dropWhile_not unsigned r
    rw [Option.mem_def.1 hx] at hhead
    by_contra hsign
    exact Bool.false_ne_true (hhead.symm.trans (unsigned_iff.2 hsign))

/-! ### Reading -/

theorem plus_not_mem_of_mem_parts {a : List Char} (ha : a ∈ (core s).splitOn '.') : '+' ∉ a := by
  intro hplus
  have hmem : '+' ∈ core s := Text.subset_of_mem_splitOn ha hplus
  rw [core_eq] at hmem
  exact absurd (List.mem_takeWhile_imp hmem) (by decide)

/-- A part of a core is read as the number that it has the digits of. -/
theorem word?_eq_some_iff {a : List Char} {x : Nat} (ha : a ∈ (core s).splitOn '.') :
    Number.word? a = some x ↔ DigitsOfWord a x := by
  rw [Number.word?_eq_some_iff]
  exact Number.spellsWord_iff_of_not_plus fun r hr =>
    plus_not_mem_of_mem_parts ha (hr ▸ List.mem_cons_self)

/-- A text stands for a version when the parts of its core spell that version. -/
theorem ofText?_eq_some_iff :
    ofText? text = some v ↔ Spells ((core text.toList).splitOn '.') v := by
  have hword := fun a ha x => word?_eq_some_iff (s := text.toList) (a := a) (x := x) ha
  unfold ofText?
  split
  case h_1 a b hparts =>
    rw [hparts] at hword ⊢
    simp only [List.mem_cons, List.not_mem_nil, or_false, forall_eq_or_imp, forall_eq] at hword
    obtain ⟨ha, hb⟩ := hword
    simp only [Option.bind_eq_bind, Option.bind_eq_some_iff, ha, hb]
    constructor
    · rintro ⟨x, hx, y, hy, h⟩
      cases h
      exact .two hx hy
    · intro h
      cases h with
      | two hx hy => exact ⟨_, hx, _, hy, rfl⟩
  case h_2 a b c hparts =>
    rw [hparts] at hword ⊢
    simp only [List.mem_cons, List.not_mem_nil, or_false, forall_eq_or_imp, forall_eq] at hword
    obtain ⟨ha, hb, hc⟩ := hword
    simp only [Option.bind_eq_bind, Option.bind_eq_some_iff, ha, hb, hc]
    constructor
    · rintro ⟨x, hx, y, hy, z, hz, h⟩
      cases h
      exact .three hx hy hz
    · intro h
      cases h with
      | three hx hy hz => exact ⟨_, hx, _, hy, _, hz, rfl⟩
  case h_3 htwo hthree =>
    constructor
    · intro h
      cases h
    · intro h
      generalize hparts : (core text.toList).splitOn '.' = parts at h
      cases h with
      | two => exact absurd hparts (htwo _ _)
      | three => exact absurd hparts (hthree _ _ _)

/-- **Which version a text stands for** is up to its core. -/
theorem read_eq_ok_iff (h : HasCore text.toList c) :
    Version.read text = .ok v ↔ Spells (c.splitOn '.') v := by
  rw [hasCore_iff.1 h, ← ofText?_eq_some_iff, Version.read]
  cases ofText? text with
  | none => simp
  | some w => simp

theorem read_eq_error (h : ∀ v, Version.read text ≠ .ok v) :
    Version.read text = .error (.versionUnknown text) := by
  rw [Version.read] at h ⊢
  split
  case h_1 v hv => exact absurd (hv ▸ rfl) (h v)
  case h_2 => rfl

/-! ### Showing -/

theorem display_toList (v : Version) : v.display.toList =
    ['.'].intercalate [Number.digits v.major, Number.digits v.minor, Number.digits v.patch] := by
  simp [display, Number.text, List.intercalate]

/-- A version is shown with digits and dots only. -/
theorem isDigit_or_dot_of_mem_display {x : Char} (hx : x ∈ v.display.toList) :
    Number.isDigit x ∨ x = '.' := by
  have hmem : x ∈ Number.digits v.major ∨ x = '.' ∨ x ∈ Number.digits v.minor ∨ x = '.' ∨
      x ∈ Number.digits v.patch := by
    simpa [display_toList, List.intercalate, or_assoc] using hx
  rcases hmem with hx | rfl | hx | rfl | hx
  · exact .inl (Number.isDigit_of_mem_digits hx)
  · exact .inr rfl
  · exact .inl (Number.isDigit_of_mem_digits hx)
  · exact .inr rfl
  · exact .inl (Number.isDigit_of_mem_digits hx)

/-- What a version is shown as is a core and nothing else. -/
theorem hasCore_display (v : Version) : HasCore v.display.toList v.display.toList := by
  have htrim : Text.trim v.display.toList = v.display.toList := by
    refine Text.trim_eq_self (.of_forall fun x hx => ?_)
    rcases isDigit_or_dot_of_mem_display hx with hx | rfl
    · exact Number.isBlank_of_isDigit hx
    · decide
  have hnone : ∀ x ∈ v.display.toList, x ≠ 'v' ∧ ¬ IsSign x := by
    intro x hx
    rcases isDigit_or_dot_of_mem_display hx with hx | rfl
    · refine ⟨fun h => absurd (h ▸ hx) (by decide), ?_⟩
      rintro (rfl | rfl) <;> exact absurd hx (by decide)
    · simp [IsSign]
  refine ⟨[], [], by rw [htrim, List.nil_append, List.append_nil], .inr ⟨rfl, fun h => ?_⟩,
    fun x hx => (hnone x hx).2, fun x hx => nomatch hx⟩
  rw [List.append_nil] at h
  exact (hnone 'v' (List.mem_of_mem_head? h)).1 rfl

theorem spells_display (h : v.IsWords) : Spells (v.display.toList.splitOn '.') v := by
  have hdots : ∀ p ∈ [Number.digits v.major, Number.digits v.minor, Number.digits v.patch],
      '.' ∉ p := by
    intro p hp hdot
    have hdigit : Number.isDigit '.' := by
      simp only [List.mem_cons, List.not_mem_nil, or_false] at hp
      rcases hp with rfl | rfl | rfl <;> exact Number.isDigit_of_mem_digits hdot
    exact absurd hdigit (by decide)
  rw [display_toList, List.splitOn_intercalate '.' hdots (List.cons_ne_nil _ _)]
  exact .three (Number.digitsOfWord_digits h.major) (Number.digitsOfWord_digits h.minor)
    (Number.digitsOfWord_digits h.patch)

theorem Spells.isWords (h : Spells parts v) : v.IsWords := by
  cases h with
  | two ha hb => exact ⟨ha.lt, hb.lt, Nat.two_pow_pos 64⟩
  | three ha hb hc => exact ⟨ha.lt, hb.lt, hc.lt⟩

/-- The text of a version stands for that version, if there are texts for it at all. -/
theorem read_display_iff : Version.read v.display = .ok v ↔ v.IsWords := by
  rw [read_eq_ok_iff (hasCore_display v)]
  exact ⟨Spells.isWords, spells_display⟩

/-! ### Order -/

/-- The numbers of the version, ordered lexicographically. -/
def key (v : Version) : ℕ ×ₗ ℕ ×ₗ ℕ := toLex (v.major, toLex (v.minor, v.patch))

theorem le_iff {v w : Version} : v.le w ↔ v.major < w.major ∨
    v.major = w.major ∧ (v.minor < w.minor ∨ v.minor = w.minor ∧ v.patch ≤ w.patch) := by
  simp only [le, Bool.or_eq_true, Bool.and_eq_true, decide_eq_true_eq, beq_iff_eq]

/-- Versions are ordered by the first number that differs. -/
theorem le_iff_key_le : v.le w ↔ v.key ≤ w.key := by
  rw [le_iff, key, key, Prod.Lex.toLex_le_toLex, Prod.Lex.toLex_le_toLex]

/-- A version applies moved blocks when it is 1.1 or higher. -/
theorem supportsMovedBlocks_iff :
    v.supportsMovedBlocks ↔ 1 < v.major ∨ v.major = 1 ∧ 1 ≤ v.minor := by
  rw [supportsMovedBlocks, le_iff]
  simp only [firstWithMovedBlocks]
  omega

theorem requireMovedBlocks_eq_ok_iff : v.requireMovedBlocks = .ok () ↔ v.supportsMovedBlocks := by
  rw [requireMovedBlocks]
  split
  case isTrue h => simp [h]
  case isFalse h => simp [h]

/-- The gate looks at the first two numbers only. -/
theorem requireMovedBlocks_eq_ok_iff_le :
    v.requireMovedBlocks = .ok () ↔ toLex (1, 1) ≤ toLex (v.major, v.minor) := by
  rw [requireMovedBlocks_eq_ok_iff, supportsMovedBlocks_iff, Prod.Lex.toLex_le_toLex,
    eq_comm (a := v.major)]

theorem requireMovedBlocks_eq_error (h : v.requireMovedBlocks ≠ .ok ()) :
    v.requireMovedBlocks = .error (.versionTooOld v) := by
  rw [requireMovedBlocks] at h ⊢
  split
  case isTrue hsupports => exact absurd (if_pos hsupports) h
  case isFalse => rfl

/-- A version from one with `moved` blocks on has them too. -/
theorem requireMovedBlocks_mono (h : v.key ≤ w.key) (hv : v.requireMovedBlocks = .ok ()) :
    w.requireMovedBlocks = .ok () := by
  rw [requireMovedBlocks_eq_ok_iff, supportsMovedBlocks, le_iff_key_le] at hv ⊢
  exact hv.trans h

/-- **The reading of versions and the gate.**  Each text has one core.  The text stands for the
version that the parts of its core spell, and if they spell none it is refused.  A version of words
is read back from the text that it is shown as.  Versions are ordered lexicographically, by their
numbers; the gate lets through those whose first two are 1.1 or higher, with each version all
higher ones, and refuses every other. -/
theorem reads_grammar_and_gates :
    (∀ s : String, ∃! c, HasCore s.toList c) ∧
    (∀ (s : String) (c : List Char), HasCore s.toList c →
      (∀ v, Version.read s = .ok v ↔ Spells (c.splitOn '.') v) ∧
      ((∀ v, ¬ Spells (c.splitOn '.') v) → Version.read s = .error (.versionUnknown s))) ∧
    (∀ v : Version, v.IsWords → Version.read v.display = .ok v) ∧
    (∀ v w : Version, v.le w ↔
      toLex (v.major, toLex (v.minor, v.patch)) ≤ toLex (w.major, toLex (w.minor, w.patch))) ∧
    (∀ v : Version, (v.requireMovedBlocks = .ok () ↔ toLex (1, 1) ≤ toLex (v.major, v.minor)) ∧
      (v.requireMovedBlocks ≠ .ok () → v.requireMovedBlocks = .error (.versionTooOld v))) ∧
    (∀ v w : Version, v.le w → v.requireMovedBlocks = .ok () → w.requireMovedBlocks = .ok ()) := by
  refine ⟨fun s => ?_, fun s c hc => ⟨fun v => read_eq_ok_iff hc, fun hnone => ?_⟩,
    fun v hv => read_display_iff.2 hv, fun v w => le_iff_key_le,
    fun v => ⟨requireMovedBlocks_eq_ok_iff_le, requireMovedBlocks_eq_error⟩,
    fun v w h => requireMovedBlocks_mono (le_iff_key_le.1 h)⟩
  · exact ⟨core s.toList, hasCore_iff.2 rfl, fun c hc => hasCore_iff.1 hc⟩
  · exact read_eq_error fun v hv => hnone v ((read_eq_ok_iff hc).1 hv)

/-- The mark, the suffix and the white space of a text do not count, but an empty part does; the
highest word is read back; and 1.6 passes the gate with 1.1, as 1.0 does not. -/
theorem reads_grammar_and_gates_beta :
    Version.read " v1.8-beta1\n" = .ok ⟨1, 8, 0⟩ ∧
    Version.read "1..2" = .error (.versionUnknown "1..2") ∧
    Version.read (display ⟨0, pow2 64 - 1, 7⟩) = .ok ⟨0, pow2 64 - 1, 7⟩ ∧
    (⟨1, 6, 0⟩ : Version).requireMovedBlocks = .ok () ∧
    (⟨1, 0, 11⟩ : Version).requireMovedBlocks = .error (.versionTooOld ⟨1, 0, 11⟩) := by
  obtain ⟨-, hread, hdisplay, -, hgate, hmono⟩ := reads_grammar_and_gates
  have hbeta : HasCore " v1.8-beta1\n".toList "1.8".toList :=
    ⟨['v'], "-beta1".toList, by decide, .inl rfl, by simp [IsSign], by simp [IsSign]⟩
  have hempty : HasCore "1..2".toList "1..2".toList :=
    ⟨[], [], by decide, .inr ⟨rfl, by decide⟩, by simp [IsSign], by simp⟩
  have hone : DigitsOfWord ['1'] 1 :=
    ⟨by decide, List.forall_mem_singleton.2 (by decide), by decide, by decide⟩
  have height : DigitsOfWord ['8'] 8 :=
    ⟨by decide, List.forall_mem_singleton.2 (by decide), by decide, by decide⟩
  refine ⟨((hread _ _ hbeta).1 _).2 (.two hone height), (hread _ _ hempty).2 fun v h => ?_,
    hdisplay _ ⟨by decide, by decide, by decide⟩, hmono ⟨1, 1, 0⟩ _ (by decide) rfl,
    (hgate _).2 (by decide)⟩
  have hparts : "1..2".toList.splitOn '.' = [['1'], [], ['2']] := by decide
  rw [hparts] at h
  cases h with
  | three _ hnone _ => exact hnone.ne_nil rfl

end ResourceMoves.Version
