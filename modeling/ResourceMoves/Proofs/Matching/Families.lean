import Mathlib.Data.List.Induction
import Mathlib.Logic.Relation
import ResourceMoves.Matching.Token

/-!
# Cancel tokens — families

A history is a list of operations on tokens, which begins with a single one that is fresh.  Each
further token is new or a clone of another (`ClonedFrom`), and the tokens that chains of clones join
are a family (`SameFamily`): it does not matter which of two tokens was made from the other, or when.

**A token is cancelled just when one of its family was** (`isCancelled_iff_family`).  It stays so, and
nothing but cancelling one of its family makes it so.

That comes about because clones share a flag.  Two tokens have one flag just when they are of one
family (`flag_eq_iff_sameFamily`), for a flag is either copied along with a token or not in use yet
(`flag_lt_fresh`), and the flags that are set are those of the tokens that were cancelled
(`mem_set_iff`).  What an operation can do to the flags is said once (`apply_cases`).
-/

namespace ResourceMoves.Matching

/-- How many tokens there are after an operation, when there were `n` before it. -/
def TokenOp.count (n : Nat) : TokenOp → Nat
  | .new      => n + 1
  | .clone i  => if i < n then n + 1 else n
  | .cancel _ => n

namespace Tokens

/-- The tokens at the end of a history. -/
def after (ops : List TokenOp) : Tokens := ops.foldl apply single

/-- How many tokens there are at the end of a history. -/
def total (ops : List TokenOp) : Nat := ops.foldl TokenOp.count 1

/-- In the history `j` is made as a clone of `i`, which is there at the time. -/
inductive ClonedFrom (ops : List TokenOp) : Nat → Nat → Prop
  | mk {before rest : List TokenOp} {i : Nat} (hops : ops = before ++ .clone i :: rest)
      (hi : i < total before) : ClonedFrom ops i (total before)

/-- Chains of clones join the tokens, in whichever direction each clone was made. -/
def SameFamily (ops : List TokenOp) : Nat → Nat → Prop := Relation.EqvGen (ClonedFrom ops)

/-- In the history the token itself is cancelled, which is there at the time. -/
inductive Cancelled (ops : List TokenOp) (i : Nat) : Prop
  | mk {before rest : List TokenOp} (hops : ops = before ++ .cancel i :: rest)
      (hi : i < total before) : Cancelled ops i

variable {t : Tokens} {ops : List TokenOp} {op : TokenOp} {i j flag : Nat}

/-! ### One operation -/

/-- **All that an operation can do**: a token is made, with a fresh flag or with that of another, a
flag is set, or nothing happens, because there is no such token. -/
theorem apply_cases (t : Tokens) (op : TokenOp) :
    (op = .new ∧ t.apply op = { t with flags := t.flags ++ [t.fresh], fresh := t.fresh + 1 }) ∨
    (∃ i flag, op = .clone i ∧ t.flags[i]? = some flag ∧
      t.apply op = { t with flags := t.flags ++ [flag] }) ∨
    (∃ i flag, op = .cancel i ∧ t.flags[i]? = some flag ∧
      t.apply op = { t with set := flag :: t.set }) ∨
    (∃ i, (op = .clone i ∨ op = .cancel i) ∧ t.flags[i]? = none ∧ t.apply op = t) := by
  cases op with
  | new => exact .inl ⟨rfl, rfl⟩
  | clone i =>
      cases h : t.flags[i]? with
      | none => exact .inr (.inr (.inr ⟨i, .inl rfl, h, by simp [apply, h]⟩))
      | some flag => exact .inr (.inl ⟨i, flag, rfl, h, by simp [apply, h]⟩)
  | cancel i =>
      cases h : t.flags[i]? with
      | none => exact .inr (.inr (.inr ⟨i, .inr rfl, h, by simp [apply, h]⟩))
      | some flag => exact .inr (.inr (.inl ⟨i, flag, rfl, h, by simp [apply, h]⟩))

theorem length_flags_apply (t : Tokens) (op : TokenOp) :
    (t.apply op).flags.length = op.count t.flags.length := by
  rcases t.apply_cases op with
    ⟨rfl, h⟩ | ⟨i, _, rfl, hi, h⟩ | ⟨_, _, rfl, -, h⟩ | ⟨i, rfl | rfl, hi, h⟩
  · simp [h, TokenOp.count]
  · obtain ⟨hlt, -⟩ := List.getElem?_eq_some_iff.1 hi
    simp [h, TokenOp.count, hlt]
  · simp [h, TokenOp.count]
  · rw [h, TokenOp.count, if_neg (Nat.not_lt.2 (List.getElem?_eq_none_iff.1 hi))]
  · rw [h, TokenOp.count]

theorem flags_prefix_apply (t : Tokens) (op : TokenOp) : t.flags <+: (t.apply op).flags := by
  rcases t.apply_cases op with ⟨-, h⟩ | ⟨_, _, -, -, h⟩ | ⟨_, _, -, -, h⟩ | ⟨_, -, -, h⟩
  all_goals simp [h]

theorem set_subset_apply (t : Tokens) (op : TokenOp) : t.set ⊆ (t.apply op).set := by
  rcases t.apply_cases op with ⟨-, h⟩ | ⟨_, _, -, -, h⟩ | ⟨_, _, -, -, h⟩ | ⟨_, -, -, h⟩
  all_goals simp [h]

/-! ### Histories -/

theorem after_concat (ops : List TokenOp) (op : TokenOp) :
    after (ops ++ [op]) = (after ops).apply op := by
  simp [after]

theorem length_flags (ops : List TokenOp) : (after ops).flags.length = total ops := by
  induction ops using List.reverseRecOn with
  | nil => rfl
  | append_singleton ops op ih => simp [after_concat, length_flags_apply, ih, total]

theorem exists_flag (h : i < total ops) : ∃ flag, (after ops).flags[i]? = some flag :=
  ⟨_, List.getElem?_eq_getElem (length_flags ops ▸ h)⟩

theorem lt_total (h : (after ops).flags[i]? = some flag) : i < total ops :=
  length_flags ops ▸ (List.getElem?_eq_some_iff.1 h).1

/-- A token keeps its flag. -/
theorem flag_kept (h : (after ops).flags[i]? = some flag) (more : List TokenOp) :
    (after (ops ++ more)).flags[i]? = some flag := by
  induction more using List.reverseRecOn with
  | nil => rwa [List.append_nil]
  | append_singleton more op ih =>
      obtain ⟨made, hmade⟩ := flags_prefix_apply (after (ops ++ more)) op
      obtain ⟨hlt, -⟩ := List.getElem?_eq_some_iff.1 ih
      rw [← List.append_assoc, after_concat, ← hmade, List.getElem?_append_left hlt, ih]

/-- A flag that is set stays set. -/
theorem set_subset (ops more : List TokenOp) : (after ops).set ⊆ (after (ops ++ more)).set := by
  induction more using List.reverseRecOn with
  | nil => simp
  | append_singleton more op ih =>
      rw [← List.append_assoc, after_concat]
      exact List.Subset.trans ih (set_subset_apply _ _)

/-- The next flag is not in use. -/
theorem flag_lt_fresh (h : flag ∈ (after ops).flags) : flag < (after ops).fresh := by
  induction ops using List.reverseRecOn with
  | nil => simp_all [after, single]
  | append_singleton ops op ih =>
      rw [after_concat] at h ⊢
      rcases (after ops).apply_cases op with
        ⟨-, happly⟩ | ⟨i, f, -, hi, happly⟩ | ⟨_, _, -, -, happly⟩ | ⟨_, -, -, happly⟩
      · rw [happly] at h ⊢
        rcases List.mem_append.1 h with h | h
        · exact Nat.lt_succ_of_lt (ih h)
        · exact List.mem_singleton.1 h ▸ Nat.lt_succ_self _
      · rw [happly] at h ⊢
        rcases List.mem_append.1 h with h | h
        · exact ih h
        · exact ih (List.mem_singleton.1 h ▸ List.mem_of_getElem? hi)
      · rw [happly] at h ⊢
        exact ih h
      · rw [happly] at h ⊢
        exact ih h

/-! ### Families -/

theorem ClonedFrom.append (h : ClonedFrom ops i j) (more : List TokenOp) :
    ClonedFrom (ops ++ more) i j := by
  obtain ⟨rfl, hi⟩ := h
  exact .mk (List.append_assoc ..) hi

/-- A family may grow, but it does not come apart. -/
theorem SameFamily.append (h : SameFamily ops i j) (more : List TokenOp) :
    SameFamily (ops ++ more) i j :=
  Relation.EqvGen.mono (fun _ _ hcloned => ClonedFrom.append hcloned more) _ _ h

/-- A clone has the flag of the token that it was made from. -/
theorem ClonedFrom.flags_eq (h : ClonedFrom ops i j) :
    (after ops).flags[i]? = (after ops).flags[j]? := by
  obtain @⟨before, rest, _, rfl, hi⟩ := h
  obtain ⟨flag, hflag⟩ := exists_flag hi
  have hclone : (after (before ++ [.clone i])).flags[total before]? = some flag := by
    rw [← length_flags, after_concat, apply]
    simp [hflag]
  rw [flag_kept hflag, List.append_cons, flag_kept hclone]

theorem SameFamily.flags_eq (h : SameFamily ops i j) :
    (after ops).flags[i]? = (after ops).flags[j]? := by
  induction h with
  | rel i j h => exact h.flags_eq
  | refl i => rfl
  | symm i j _ ih => exact ih.symm
  | trans i j k _ _ hij hjk => exact hij.trans hjk

theorem getElem?_concat_eq_some {l : List Nat} {a b k : Nat} (h : (l ++ [a])[k]? = some b) :
    l[k]? = some b ∨ k = l.length ∧ a = b := by
  rcases Nat.lt_or_ge k l.length with hlt | hge
  · exact .inl (List.getElem?_append_left hlt ▸ h)
  · rw [List.getElem?_append_right hge, List.getElem?_singleton, Option.ite_none_right_eq_some] at h
    exact .inr ⟨by omega, Option.some.inj h.2⟩

/-- Unless a token is made new, each is of the family of one that was there before, with its flag. -/
theorem exists_older (hop : op ≠ .new) (h : (after (ops ++ [op])).flags[i]? = some flag) :
    ∃ k, (after ops).flags[k]? = some flag ∧ SameFamily (ops ++ [op]) i k := by
  rcases (after ops).apply_cases op with
    ⟨hnew, -⟩ | ⟨k, f, rfl, hk, happly⟩ | ⟨_, _, -, -, happly⟩ | ⟨_, -, -, happly⟩
  · exact absurd hnew hop
  · rw [after_concat, happly] at h
    rcases getElem?_concat_eq_some h with hi | ⟨rfl, rfl⟩
    · exact ⟨i, hi, .refl i⟩
    · rw [length_flags]
      exact ⟨k, hk, .symm _ _ (.rel _ _ (.mk rfl (lt_total hk)))⟩
  · rw [after_concat, happly] at h
    exact ⟨i, h, .refl i⟩
  · rw [after_concat, happly] at h
    exact ⟨i, h, .refl i⟩

/-- Tokens with one flag are of one family. -/
theorem sameFamily_of_flag (hi : (after ops).flags[i]? = some flag)
    (hj : (after ops).flags[j]? = some flag) : SameFamily ops i j := by
  induction ops using List.reverseRecOn generalizing i j with
  | nil =>
      obtain rfl : i = 0 := Nat.lt_one_iff.1 (lt_total hi)
      obtain rfl : j = 0 := Nat.lt_one_iff.1 (lt_total hj)
      exact .refl 0
  | append_singleton ops op ih =>
      by_cases hop : op = .new
      · subst hop
        rw [after_concat] at hi hj
        have hfresh {k : Nat} (hk : (after ops).flags[k]? = some flag)
            (heq : (after ops).fresh = flag) : False :=
          Nat.lt_irrefl _ (heq ▸ flag_lt_fresh (List.mem_of_getElem? hk))
        rcases getElem?_concat_eq_some hi with hi | ⟨rfl, heq⟩
        · rcases getElem?_concat_eq_some hj with hj | ⟨rfl, heq⟩
          · exact (ih hi hj).append _
          · exact (hfresh hi heq).elim
        · rcases getElem?_concat_eq_some hj with hj | ⟨rfl, -⟩
          · exact (hfresh hj heq).elim
          · exact .refl _
      · obtain ⟨k, hk, hik⟩ := exists_older hop hi
        obtain ⟨l, hl, hjl⟩ := exists_older hop hj
        exact .trans _ _ _ hik (.trans _ _ _ ((ih hk hl).append _) (.symm _ _ hjl))

/-- **Two tokens have one flag just when they are of one family.** -/
theorem flag_eq_iff_sameFamily (hi : (after ops).flags[i]? = some flag) :
    (after ops).flags[j]? = some flag ↔ SameFamily ops i j :=
  ⟨sameFamily_of_flag hi, fun h => h.flags_eq.symm.trans hi⟩

/-! ### Cancelled tokens -/

theorem Cancelled.append (h : Cancelled ops i) (more : List TokenOp) :
    Cancelled (ops ++ more) i := by
  obtain ⟨rfl, hi⟩ := h
  exact .mk (List.append_assoc ..) hi

/-- The flag of a token that was cancelled is set. -/
theorem Cancelled.exists_flag_mem_set (h : Cancelled ops i) :
    ∃ flag, (after ops).flags[i]? = some flag ∧ flag ∈ (after ops).set := by
  obtain ⟨rfl, hi⟩ := h
  obtain ⟨flag, hflag⟩ := exists_flag hi
  refine ⟨flag, flag_kept hflag _, ?_⟩
  rw [List.append_cons]
  refine set_subset _ _ ?_
  rw [after_concat, apply]
  simp [hflag]

/-- **The flags that are set** are those of the tokens that were cancelled. -/
theorem mem_set_iff : flag ∈ (after ops).set ↔
    ∃ i, Cancelled ops i ∧ (after ops).flags[i]? = some flag := by
  constructor
  · intro h
    induction ops using List.reverseRecOn with
    | nil => simp [after, single] at h
    | append_singleton ops op ih =>
        have hkept (hset : flag ∈ (after ops).set) : ∃ i, Cancelled (ops ++ [op]) i ∧
            (after (ops ++ [op])).flags[i]? = some flag := by
          obtain ⟨i, hi, hflag⟩ := ih hset
          exact ⟨i, hi.append _, flag_kept hflag _⟩
        rw [after_concat] at h
        rcases (after ops).apply_cases op with
          ⟨-, happly⟩ | ⟨_, _, -, -, happly⟩ | ⟨i, f, rfl, hi, happly⟩ | ⟨_, -, -, happly⟩
        · exact hkept (by rwa [happly] at h)
        · exact hkept (by rwa [happly] at h)
        · rw [happly] at h
          rcases List.mem_cons.1 h with rfl | h
          · exact ⟨i, .mk rfl (lt_total hi), flag_kept hi _⟩
          · exact hkept h
        · exact hkept (by rwa [happly] at h)
  · rintro ⟨i, hi, hflag⟩
    obtain ⟨f, hf, hset⟩ := hi.exists_flag_mem_set
    exact Option.some.inj (hf.symm.trans hflag) ▸ hset

theorem isCancelled_iff : t.isCancelled i ↔ ∃ flag, t.flags[i]? = some flag ∧ flag ∈ t.set := by
  unfold isCancelled
  cases t.flags[i]? <;> simp

theorem isCancelled_after_iff : (after ops).isCancelled i ↔
    ∃ j, Cancelled ops j ∧ SameFamily ops j i := by
  rw [isCancelled_iff]
  constructor
  · rintro ⟨flag, hi, hset⟩
    obtain ⟨j, hj, hflag⟩ := mem_set_iff.1 hset
    exact ⟨j, hj, (flag_eq_iff_sameFamily hflag).1 hi⟩
  · rintro ⟨j, hj, hfamily⟩
    obtain ⟨flag, hflag, hset⟩ := hj.exists_flag_mem_set
    exact ⟨flag, (flag_eq_iff_sameFamily hflag).2 hfamily, hset⟩

/-- **What one operation does** to the tokens that are there. -/
theorem isCancelled_concat_iff (op : TokenOp) (hi : i < total ops) :
    (after (ops ++ [op])).isCancelled i ↔
      (after ops).isCancelled i ∨ ∃ j, op = .cancel j ∧ SameFamily ops j i := by
  obtain ⟨flag, hflag⟩ := exists_flag hi
  have hbefore : (after ops).isCancelled i ↔ flag ∈ (after ops).set := by
    simp [isCancelled_iff, hflag]
  have hafter : (after (ops ++ [op])).isCancelled i ↔ flag ∈ (after (ops ++ [op])).set := by
    simp [isCancelled_iff, flag_kept hflag]
  rw [hbefore, hafter, after_concat]
  rcases (after ops).apply_cases op with
    ⟨rfl, happly⟩ | ⟨_, _, rfl, -, happly⟩ | ⟨j, f, rfl, hj, happly⟩ | ⟨j, hop, hj, happly⟩
  · simp [happly]
  · simp [happly]
  · have hfamily : SameFamily ops j i ↔ flag = f := by
      rw [← flag_eq_iff_sameFamily hj, hflag, Option.some.injEq]
    simp [happly, hfamily, or_comm]
  · -- a token that there is not has none of the others in its family
    rw [happly, iff_self_or]
    rintro ⟨k, rfl, hfamily⟩
    rcases hop with hop | hop
    · cases hop
    · cases hop
      rw [hfamily.flags_eq, hflag] at hj
      cases hj

/-- **A token is cancelled just when one of its family was**, at the end of every history.  It stops
the work then and at no other time, and it stays cancelled whatever is done.  A single operation
cancels no token but those of the family that it is for. -/
theorem isCancelled_iff_family (ops : List TokenOp) (i : Nat) :
    (after ops).states.length = total ops ∧
    ((after ops).isCancelled i ↔ ∃ j, Cancelled ops j ∧ SameFamily ops j i) ∧
    ((after ops).check i = .error .cancelled ↔ (after ops).isCancelled i) ∧
    ((after ops).check i = .ok () ↔ ¬ (after ops).isCancelled i) ∧
    (∀ more, (after ops).isCancelled i → (after (ops ++ more)).isCancelled i) ∧
    ∀ op, i < total ops → ((after (ops ++ [op])).isCancelled i ↔
      (after ops).isCancelled i ∨ ∃ j, op = .cancel j ∧ SameFamily ops j i) := by
  refine ⟨by simp [states, length_flags], isCancelled_after_iff, by simp [check], by simp [check],
    fun more h => ?_, isCancelled_concat_iff⟩
  obtain ⟨j, hj, hfamily⟩ := isCancelled_after_iff.1 h
  exact isCancelled_after_iff.2 ⟨j, hj.append more, hfamily.append more⟩

/-- A token is cloned, the clone is cancelled, and the first token is cloned once more; another is
made new in between. -/
def twoFamilies : List TokenOp := [.clone 0, .new, .cancel 1, .clone 0]

/-- The clone made last is cancelled from the start, and stays so.  The new token is not, and it
would not be if that clone were cancelled as well. -/
theorem isCancelled_iff_family_twoFamilies :
    (after twoFamilies).isCancelled 3 ∧
      (∃ j, Cancelled twoFamilies j ∧ SameFamily twoFamilies j 3) ∧
      (after (twoFamilies ++ [.new])).isCancelled 3 ∧
      (after twoFamilies).check 2 = .ok () ∧ ¬ SameFamily twoFamilies 3 2 ∧
      2 < total twoFamilies ∧ ¬ (after (twoFamilies ++ [.cancel 3])).isCancelled 2 := by
  obtain ⟨-, hfamily, -, -, hstays, -⟩ := isCancelled_iff_family twoFamilies 3
  obtain ⟨-, -, -, hcheck, -, hstep⟩ := isCancelled_iff_family twoFamilies 2
  have hlast : (after twoFamilies).isCancelled 3 := by decide
  have hnew : ¬ (after twoFamilies).isCancelled 2 := by decide
  have hthere : 2 < total twoFamilies := by decide
  have hapart : ¬ SameFamily twoFamilies 3 2 := fun h => absurd h.flags_eq (by decide)
  refine ⟨hlast, hfamily.1 hlast, hstays [.new] hlast, hcheck.2 hnew, hapart, hthere, fun h => ?_⟩
  rcases (hstep (.cancel 3) hthere).1 h with h | ⟨j, hj, h⟩
  · exact hnew h
  · cases hj
    exact hapart h

end Tokens

end ResourceMoves.Matching
