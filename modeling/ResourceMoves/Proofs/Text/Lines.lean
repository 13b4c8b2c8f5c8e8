import Mathlib.Data.List.Basic
import ResourceMoves.Proofs.Text.Quoting

/-!
# Lines

A text that is written line by line tells its lines (`unlines_inj`), if none of them has a line feed
of its own: they are what it is cut into at its line feeds (`splitOn_unlines_of_oneLined`).  Texts
with a separator between them, and a text cut at one, keep their characters.
-/

namespace ResourceMoves.Text

variable {ls ls' : List (List Char)}

/-- The text of lines, each closed by a line feed. -/
def unlines (ls : List (List Char)) : List Char := ls.flatMap (· ++ ['\n'])

@[simp] theorem unlines_nil : unlines [] = [] := rfl

@[simp] theorem unlines_cons (l : List Char) (ls : List (List Char)) :
    unlines (l :: ls) = l ++ '\n' :: unlines ls := by
  simp [unlines]

@[simp] theorem unlines_append (ls ls' : List (List Char)) :
    unlines (ls ++ ls') = unlines ls ++ unlines ls' :=
  List.flatMap_append

theorem unlines_flatMap {α : Type} (f : α → List (List Char)) (l : List α) :
    unlines (l.flatMap f) = l.flatMap fun a => unlines (f a) :=
  List.flatMap_assoc

/-- **The text of lines tells the lines.** -/
theorem unlines_inj (h : ∀ l ∈ ls, '\n' ∉ l) (h' : ∀ l ∈ ls', '\n' ∉ l)
    (heq : unlines ls = unlines ls') : ls = ls' := by
  induction ls generalizing ls' with
  | nil =>
      cases ls' with
      | nil => rfl
      | cons l' ls' => simp at heq
  | cons l ls ih =>
      cases ls' with
      | nil => simp at heq
      | cons l' ls' =>
          obtain ⟨hl, hls⟩ := List.forall_mem_cons.1 h
          obtain ⟨hl', hls'⟩ := List.forall_mem_cons.1 h'
          rw [unlines_cons, unlines_cons] at heq
          obtain ⟨rfl, hrest⟩ := closed_append_inj hl hl' heq
          rw [ih hls hls' hrest]

/-- The first of some texts, and each other one after what separates them. -/
theorem intercalate_cons_eq (sep w : List Char) (ws : List (List Char)) :
    sep.intercalate (w :: ws) = w ++ ws.flatMap (sep ++ ·) := by
  induction ws generalizing w with
  | nil => simp
  | cons v ws ih =>
      rw [List.intercalate_cons_cons, ih, List.flatMap_cons, List.append_assoc, List.append_assoc]

theorem not_mem_intercalate {sep : List Char} {ws : List (List Char)} {x : Char} (hsep : x ∉ sep)
    (hws : ∀ w ∈ ws, x ∉ w) : x ∉ sep.intercalate ws := by
  cases ws with
  | nil => exact List.not_mem_nil
  | cons w ws =>
      obtain ⟨hw, hws⟩ := List.forall_mem_cons.1 hws
      rw [intercalate_cons_eq, List.mem_append, List.mem_flatMap]
      rintro (h | ⟨v, hv, h⟩)
      · exact hw h
      · exact (List.mem_append.1 h).elim hsep (hws v hv)

/-- The parts that a text is cut into have its characters only. -/
theorem subset_of_mem_splitOn {s p : List Char} {x : Char} (hp : p ∈ s.splitOn x) : p ⊆ s := by
  intro y hy
  have hs : [x].intercalate (s.splitOn x) = s := List.intercalate_splitOn x
  rw [← hs]
  cases hparts : s.splitOn x with
  | nil => exact absurd hparts (List.splitOn_ne_nil x s)
  | cons q qs =>
      rw [hparts] at hp
      rw [intercalate_cons_eq, List.mem_append, List.mem_flatMap]
      rcases List.mem_cons.1 hp with rfl | hp
      · exact .inl hy
      · exact .inr ⟨p, hp, List.mem_append_right _ hy⟩

/-- Between two separators there is none. -/
theorem not_mem_of_mem_splitOn {s p : List Char} {x : Char} (hp : p ∈ s.splitOn x) : x ∉ p := by
  induction s generalizing p with
  | nil =>
      rw [List.splitOn_nil, List.mem_singleton] at hp
      exact hp ▸ List.not_mem_nil
  | cons c s ih =>
      rw [List.splitOn_cons_eq_if_modifyHead] at hp
      split at hp
      case isTrue =>
        rcases List.mem_cons.1 hp with rfl | hp
        · exact List.not_mem_nil
        · exact ih hp
      case isFalse hc =>
        obtain ⟨q, qs, hs⟩ := List.exists_cons_of_ne_nil (List.splitOn_ne_nil x s)
        rw [hs, List.modifyHead_cons] at hp
        rcases List.mem_cons.1 hp with rfl | hp
        · intro hx
          rcases List.mem_cons.1 hx with rfl | hx
          · exact hc (beq_self_eq_true _)
          · exact ih (hs ▸ List.mem_cons_self) hx
        · exact ih (hs ▸ List.mem_cons_of_mem _ hp)

/-- Lines with line feeds between them, and one at the end. -/
theorem intercalate_lineFeed (h : ls ≠ []) : ['\n'].intercalate ls ++ ['\n'] = unlines ls := by
  induction ls with
  | nil => exact absurd rfl h
  | cons l ls ih =>
      cases ls with
      | nil => simp
      | cons l' ls =>
          rw [List.intercalate_cons_cons, unlines_cons, ← ih (List.cons_ne_nil _ _)]
          simp

/-- The text of lines is cut at their ends and wherever they have line feeds of their own. -/
theorem splitOn_unlines (ls : List (List Char)) :
    (unlines ls).splitOn '\n' = ls.flatMap (·.splitOn '\n') ++ [[]] := by
  induction ls with
  | nil => rfl
  | cons l ls ih =>
      have hcut : (l ++ '\n' :: unlines ls).splitOn '\n' =
          l.splitOn '\n' ++ (unlines ls).splitOn '\n' :=
        List.splitOnP_append_cons _ _ (beq_self_eq_true _)
      rw [unlines_cons, hcut, ih, List.flatMap_cons, List.append_assoc]

/-- The text of lines is cut into these, and what follows the last line feed. -/
theorem splitOn_unlines_of_oneLined (h : ∀ l ∈ ls, '\n' ∉ l) :
    (unlines ls).splitOn '\n' = ls ++ [[]] := by
  have hlines : (ls.flatMap fun l => l.splitOn '\n') = ls.flatMap fun l => [l] :=
    List.flatMap_congr fun l hl => List.splitOn_eq_singleton (h l hl)
  rw [splitOn_unlines, hlines, List.flatMap_singleton']

end ResourceMoves.Text
