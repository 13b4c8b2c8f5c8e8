import Mathlib.Data.List.Induction
import ResourceMoves.Proofs.Shell.Script

/-!
# Shell — no word is longer than it was written

What a shell has read of a text has a first word, which may not be over yet (`Scan.front`).  Each
character adds one letter to it at most (`extent_step_le`), if the backslash that may be a letter
later, between double quotes, is counted at once (`Mode.pending`).  Outside of quotes a character
that is no letter of the word adds none.

**A text either is its own first word, as it is written, or has a shorter one**
(`isBare_or_extent_lt`): as long as there were only letters, the word has all of them, and from the
first other character on it stays behind.
-/

namespace ResourceMoves.Shell

/-- The letters that a place will give without a further character: a backslash between double
quotes may yet be one. -/
def Mode.pending : Mode → Nat
  | .doubleEscaped => 1
  | _              => 0

namespace Scan

variable {s t : Scan} {c : Char} {text : List Char}

/-- The words that were read, with the one that has begun. -/
def allWords (s : Scan) : List Word := s.commands.flatten ++ s.words ++ s.word.toList

/-- How long the first word is, as far as it was read. -/
def front (s : Scan) : Nat := (s.allWords.head?.getD []).length

/-- How long the first word is, with what is pending. -/
def extent (s : Scan) : Nat := s.front + s.mode.pending

/-! ### The first word -/

theorem allWords_endWord (s : Scan) : s.endWord.allWords = s.allWords := by
  simp [allWords, endWord]

theorem allWords_endLine (s : Scan) : s.endLine.allWords = s.allWords := by
  have hflatten (words : List Word) : (if words.isEmpty then s.commands
      else s.commands ++ [words]).flatten = s.commands.flatten ++ words := by
    cases words <;> simp
  calc s.endLine.allWords
      = (if (s.words ++ s.word.toList).isEmpty then s.commands
          else s.commands ++ [s.words ++ s.word.toList]).flatten ++ [] ++ [] := rfl
    _ = s.allWords := by
        rw [hflatten, List.append_nil, List.append_nil, allWords, List.append_assoc]

/-- A script of one command has the words of that command. -/
theorem allWords_of_finish {words : List Word} (h : s.finish = some [words]) :
    s.allWords = words := by
  rw [finish] at h
  split at h
  case isTrue =>
    have hcommands := Option.some.inj h
    rw [← allWords_endLine, allWords, hcommands]
    simp [endLine]
  case isFalse => cases h

theorem front_endWord (s : Scan) : s.endWord.front = s.front := by
  rw [front, allWords_endWord, front]

theorem front_endLine (s : Scan) : s.endLine.front = s.front := by
  rw [front, allWords_endLine, front]

theorem front_push_le (s : Scan) (letters : Word) :
    (s.push letters).front ≤ s.front + letters.length := by
  simp only [front, allWords, push]
  cases s.commands.flatten ++ s.words with
  | nil => cases s.word <;> simp
  | cons => simp

/-! ### One character after the other -/

/-- Outside of quotes a character is a letter of the current word, or adds nothing to the first. -/
theorem stepBare_cases (hmode : s.mode = .bare) (hzero : c ≠ '\x00') (h : s.stepBare c = some t) :
    t.extent ≤ s.front ∨
      t = s.push [⟨c, false⟩] ∧ (c ∈ special → c = '#' ∧ s.word.isSome) := by
  obtain ⟨_, word, words, commands⟩ := s
  cases hmode
  rw [stepBare] at h
  by_cases hline : c = '\n'
  · rw [if_pos hline] at h
    cases h
    exact .inl (Nat.le_of_eq (front_endLine _))
  rw [if_neg hline] at h
  by_cases hblank : c = ' ' ∨ c = '\t'
  · rw [if_pos hblank] at h
    cases h
    exact .inl (Nat.le_of_eq (front_endWord _))
  rw [if_neg hblank] at h
  by_cases hescape : c = '\\'
  · rw [if_pos hescape] at h
    cases h
    exact .inl (Nat.le_refl _)
  rw [if_neg hescape] at h
  by_cases hsingle : c = '\''
  · rw [if_pos hsingle] at h
    cases h
    exact .inl (front_push_le ⟨.bare, word, words, commands⟩ [])
  rw [if_neg hsingle] at h
  by_cases hdouble : c = '"'
  · rw [if_pos hdouble] at h
    cases h
    exact .inl (front_push_le ⟨.bare, word, words, commands⟩ [])
  rw [if_neg hdouble] at h
  by_cases hcomment : c = '#' ∧ word = none
  · rw [if_pos hcomment] at h
    cases h
    exact .inl (Nat.le_refl _)
  rw [if_neg hcomment] at h
  by_cases hmeaning : c ∈ operators ∨ c ∈ expansions
  · rw [if_pos hmeaning] at h
    cases h
  rw [if_neg hmeaning] at h
  cases h
  refine .inr ⟨rfl, fun hspecial => ?_⟩
  obtain ⟨hspace, htab⟩ := not_or.1 hblank
  obtain ⟨hoperator, hexpansion⟩ := not_or.1 hmeaning
  have hsign : c = '#' := by
    simpa [special, hzero, hline, hspace, htab, hescape, hsingle, hdouble, hoperator, hexpansion]
      using hspecial
  exact ⟨hsign, Option.isSome_iff_ne_none.2 fun hnone => hcomment ⟨hsign, hnone⟩⟩

/-- **A character makes the first word longer by one letter at most.** -/
theorem extent_step_le (h : s.step c = some t) : t.extent ≤ s.extent + 1 := by
  rw [step] at h
  by_cases hzero : c = '\x00'
  · rw [if_pos hzero] at h
    cases h
  rw [if_neg hzero] at h
  obtain ⟨mode, word, words, commands⟩ := s
  cases mode with
  | bare =>
      rcases stepBare_cases rfl hzero h with hle | ⟨rfl, -⟩
      · exact Nat.le_succ_of_le hle
      · exact front_push_le _ _
  | escaped =>
      dsimp only at h
      split at h
      case isTrue =>
        cases h
        exact Nat.le_succ _
      case isFalse =>
        cases h
        exact front_push_le ⟨.escaped, word, words, commands⟩ [⟨c, true⟩]
  | single =>
      dsimp only at h
      split at h
      case isTrue =>
        cases h
        exact Nat.le_succ _
      case isFalse =>
        cases h
        exact front_push_le _ _
  | double =>
      dsimp only at h
      split at h
      case isTrue =>
        cases h
        exact Nat.le_succ _
      case isFalse =>
        split at h
        case isTrue =>
          cases h
          exact Nat.le_refl _
        case isFalse =>
          split at h
          case isTrue => cases h
          case isFalse =>
            cases h
            exact front_push_le _ _
  | doubleEscaped =>
      dsimp only at h
      split at h
      case isTrue =>
        cases h
        exact Nat.le_add_right _ 2
      case isFalse =>
        split at h
        case isTrue =>
          cases h
          exact Nat.le_succ_of_le (front_push_le ⟨.double, word, words, commands⟩ [⟨c, true⟩])
        case isFalse =>
          cases h
          exact front_push_le ⟨.double, word, words, commands⟩ [⟨'\\', true⟩, ⟨c, true⟩]
  | comment =>
      dsimp only at h
      split at h
      case isTrue =>
        cases h
        exact Nat.le_succ_of_le (Nat.le_of_eq (front_endLine _))
      case isFalse =>
        cases h
        exact Nat.le_succ _

/-! ### All characters of a text -/

theorem stepBare_of_step (hmode : s.mode = .bare) (h : s.step c = some t) :
    c ≠ '\x00' ∧ s.stepBare c = some t := by
  rw [step] at h
  split at h
  case isTrue => cases h
  case isFalse hzero =>
    rw [hmode] at h
    exact ⟨hzero, h⟩

/-- What is read of a text that is bare so far. -/
theorem scan_of_isBare (htext : text = [] ∨ IsBare text) (h : scan {} text = some s) :
    s.mode = .bare ∧ s.front = text.length ∧ (s.word.isSome → text ≠ []) := by
  rcases htext with rfl | hbare
  · cases h
    exact ⟨rfl, rfl, nofun⟩
  · rw [reads_bareLetters hbare _ rfl] at h
    cases h
    exact ⟨rfl, List.length_map _, fun _ => hbare.ne_nil⟩

theorem isBare_append (htext : text = [] ∨ IsBare text) (hc : c ∈ special → c = '#' ∧ text ≠ []) :
    IsBare (text ++ [c]) := by
  rcases htext with rfl | hbare
  · refine ⟨List.cons_ne_nil _ _, List.forall_mem_singleton.2 fun h => (hc h).1, ?_⟩
    rintro ⟨⟩
    exact (hc (by decide)).2 rfl
  · refine ⟨by simp, ?_, ?_⟩
    · rw [List.forall_mem_append]
      exact ⟨hbare.chars, List.forall_mem_singleton.2 fun h => (hc h).1⟩
    · rw [List.head?_append_of_ne_nil _ hbare.ne_nil]
      exact hbare.head

/-- **A text is its own first word, or has a shorter one.** -/
theorem isBare_or_extent_lt (h : scan {} text = some s) :
    (text = [] ∨ IsBare text) ∨ s.extent < text.length := by
  induction text using List.reverseRecOn generalizing s with
  | nil => exact .inl (.inl rfl)
  | append_singleton text c ih =>
      rw [scan_append, Option.bind_eq_some_iff] at h
      obtain ⟨t, ht, h⟩ := h
      rw [scan_cons, Option.bind_eq_some_iff] at h
      obtain ⟨u, hu, h⟩ := h
      cases h
      rw [List.length_append, List.length_singleton]
      rcases ih ht with htext | hlt
      · obtain ⟨hmode, hfront, hword⟩ := scan_of_isBare htext ht
        obtain ⟨hzero, hu⟩ := stepBare_of_step hmode hu
        rcases stepBare_cases hmode hzero hu with hle | ⟨-, hspecial⟩
        · exact .inr (Nat.lt_succ_of_le (hfront ▸ hle))
        · refine .inl (.inr (isBare_append htext fun hc => ?_))
          exact ⟨(hspecial hc).1, hword (hspecial hc).2⟩
      · exact .inr (Nat.lt_of_le_of_lt (extent_step_le hu) (Nat.succ_lt_succ hlt))

end Scan

end ResourceMoves.Shell
