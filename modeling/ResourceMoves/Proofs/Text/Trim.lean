import Mathlib.Data.List.DropRight
import ResourceMoves.Text.Blank

/-!
# Trimmed texts

A text is trimmed when there is no white space at its ends (`Trimmed`).  Trimming gives a trimmed
text (`trimmed_trim`) and leaves such a text as it is (`trim_eq_self`), so a second time it changes
nothing (`trim_trim`).
-/

namespace ResourceMoves.Text

variable {s t : List Char}

/-- The text neither begins nor ends with white space. -/
structure Trimmed (s : List Char) : Prop where
  head : ∀ c, s.head? = some c → isBlank c = false
  last : ∀ c, s.getLast? = some c → isBlank c = false

theorem trim_eq_rdropWhile (s : List Char) : trim s = (dropBlanks s).rdropWhile isBlank := rfl

theorem trimmed_trim (s : List Char) : Trimmed (trim s) := by
  refine ⟨fun c hc => ?_, fun c hc => ?_⟩
  · -- what is left at the end is a beginning of what was left in front
    obtain ⟨r, hr⟩ := List.head?_eq_some_iff.1 hc
    obtain ⟨u, hu⟩ := List.rdropWhile_prefix isBlank (dropBlanks s)
    rw [← trim_eq_rdropWhile, hr, List.cons_append] at hu
    exact dropBlanks_head hu.symm
  · have hne : trim s ≠ [] := by
      rintro h
      rw [h] at hc
      cases hc
    rw [List.getLast?_eq_some_getLast hne, Option.some.injEq] at hc
    rw [← hc, ← Bool.not_eq_true]
    exact List.rdropWhile_last_not isBlank (dropBlanks s) hne

theorem trim_eq_self (h : Trimmed s) : trim s = s := by
  have hfront : dropBlanks s = s := by
    refine List.dropWhile_eq_self_iff.2 fun hlength => ?_
    rw [h.head _ (List.head?_eq_getElem? ▸ List.getElem?_eq_getElem hlength)]
    exact Bool.false_ne_true
  rw [trim_eq_rdropWhile, hfront, List.rdropWhile_eq_self_iff]
  intro hne
  rw [h.last _ (List.getLast?_eq_some_getLast hne)]
  exact Bool.false_ne_true

theorem trim_trim (s : List Char) : trim (trim s) = trim s :=
  trim_eq_self (trimmed_trim s)

/-- A text without white space is trimmed. -/
theorem Trimmed.of_forall (h : ∀ c ∈ s, isBlank c = false) : Trimmed s :=
  ⟨fun c hc => h c (List.mem_of_mem_head? hc), fun c hc => h c (List.mem_of_getLast? hc)⟩

/-- Two trimmed texts, one after the other, are trimmed. -/
theorem Trimmed.append (hs : Trimmed s) (ht : Trimmed t) : Trimmed (s ++ t) := by
  refine ⟨fun c hc => ?_, fun c hc => ?_⟩
  · rw [List.head?_append, Option.or_eq_some_iff] at hc
    rcases hc with hc | ⟨-, hc⟩
    · exact hs.head c hc
    · exact ht.head c hc
  · rw [List.getLast?_append, Option.or_eq_some_iff] at hc
    rcases hc with hc | ⟨-, hc⟩
    · exact ht.last c hc
    · exact hs.last c hc

/-- Trimmed texts with a trimmed text between any two of them are trimmed. -/
theorem Trimmed.intercalate {parts : List (List Char)} (hs : Trimmed s)
    (hparts : ∀ t ∈ parts, Trimmed t) : Trimmed (s.intercalate parts) := by
  induction parts with
  | nil => exact .of_forall (by simp)
  | cons t parts ih =>
      obtain ⟨ht, hrest⟩ := List.forall_mem_cons.1 hparts
      cases parts with
      | nil => rwa [List.intercalate_singleton]
      | cons u parts =>
          rw [List.intercalate_cons_cons]
          exact (ht.append hs).append (ih hrest)

end ResourceMoves.Text
