import ResourceMoves.Matching.Solve

/-!
# Matching — which comparisons are committed

`commit` takes the comparisons one after the other and asks its watch before each.  Unless the watch
stops it, what it gives is `chosen`: each comparison that has no candidate in common with one chosen
before it (`commit_eq`).

* `not_clashes_of_mem_chosen`, `chosen_pairwise`: no two of what is committed and what is chosen
  have a candidate in common.
* `chosen_blocks`: what is not chosen clashes with something that comes before it.
* `chosen_cons`: committing a comparison first is leaving out all that clash with it.
* `chosen_filter`: leaving out comparisons changes nothing for the others, as long as what clashes
  with a kept one and is chosen is kept as well.
-/

namespace ResourceMoves.Matching

/-- The comparisons that have no candidate in common with one that is `committed`, or with one
chosen before them. -/
def chosen (committed : List Comparison) : List Comparison → List Comparison
  | []        => []
  | c :: rest =>
      if committed.any c.clashes then chosen committed rest
      else c :: chosen (c :: committed) rest

theorem Comparison.clashes_comm (a b : Comparison) : a.clashes b = b.clashes a := by
  simp only [clashes, Bool.beq_comm]

theorem Comparison.clashes_eq_false_iff {a b : Comparison} :
    a.clashes b = false ↔
      a.delete.address ≠ b.delete.address ∧ a.create.address ≠ b.create.address := by
  simp only [clashes, Bool.or_eq_false_iff, beq_eq_false_iff_ne]

/-! ### Committing under a watch -/

/-- **Committing is choosing**, unless the watch stops one of the steps. -/
theorem commit_eq (watch : Watch) (n : Nat) :
    ∀ (cs : List Comparison) (i : Nat) (committed : List Comparison),
      commit watch n i committed cs =
        if (List.range' i cs.length).any fun j => watch (.step n j) then .error .cancelled
        else .ok (chosen committed cs)
  | [], _, _ => rfl
  | c :: rest, i, committed => by
      simp only [commit, checkpoint, List.length_cons, List.range'_succ, List.any_cons]
      cases watch (.step n i) with
      | true => rfl
      | false =>
          simp only [chosen, commit_eq watch n rest]
          cases committed.any c.clashes with
          | true => rfl
          | false => cases (List.range' (i + 1) rest.length).any fun j => watch (.step n j) <;> rfl

/-! ### What is chosen -/

variable {committed cs : List Comparison}

theorem chosen_of_clash {c : Comparison} (h : committed.any c.clashes = true) :
    chosen committed (c :: cs) = chosen committed cs := by
  rw [chosen, if_pos h]

theorem chosen_of_free {c : Comparison} (h : committed.any c.clashes = false) :
    chosen committed (c :: cs) = c :: chosen (c :: committed) cs := by
  rw [chosen, if_neg (Bool.not_eq_true _ ▸ h)]

theorem chosen_sublist : ∀ (committed cs : List Comparison), (chosen committed cs).Sublist cs
  | _, [] => .slnil
  | committed, c :: rest => by
      simp only [chosen]
      split
      · exact (chosen_sublist committed rest).cons c
      · exact (chosen_sublist (c :: committed) rest).cons_cons c

theorem mem_of_mem_chosen {c : Comparison} (h : c ∈ chosen committed cs) : c ∈ cs :=
  (chosen_sublist committed cs).mem h

/-- What is chosen has no candidate in common with what is committed. -/
theorem not_clashes_of_mem_chosen {c k : Comparison} (hc : c ∈ chosen committed cs)
    (hk : k ∈ committed) : c.clashes k = false := by
  induction cs generalizing committed with
  | nil => cases hc
  | cons a rest ih =>
      simp only [chosen] at hc
      split at hc
      case isTrue => exact ih hc hk
      case isFalse hfree =>
          rcases List.mem_cons.1 hc with rfl | hc
          · exact Bool.eq_false_iff.2 fun h => hfree (List.any_eq_true.2 ⟨k, hk, h⟩)
          · exact ih hc (List.mem_cons_of_mem a hk)

/-- No two comparisons that are chosen have a candidate in common. -/
theorem chosen_pairwise : ∀ (committed cs : List Comparison),
    (chosen committed cs).Pairwise fun a b => a.clashes b = false
  | _, [] => .nil
  | committed, c :: rest => by
      simp only [chosen]
      split
      · exact chosen_pairwise committed rest
      · refine .cons (fun b hb => ?_) (chosen_pairwise (c :: committed) rest)
        rw [Comparison.clashes_comm]
        exact not_clashes_of_mem_chosen hb List.mem_cons_self

/-- **What is not chosen is blocked.**  A comparison clashes with one that is committed, or it is
chosen, or it clashes with one that is chosen before it; `R` is the order of the list. -/
theorem chosen_blocks {R : Comparison → Comparison → Prop} (hR : cs.Pairwise R) {x : Comparison}
    (hx : x ∈ cs) : committed.any x.clashes ∨ x ∈ chosen committed cs ∨
      ∃ f ∈ chosen committed cs, R f x ∧ x.clashes f := by
  induction cs generalizing committed with
  | nil => cases hx
  | cons c rest ih =>
      obtain ⟨hc, hrest⟩ := List.pairwise_cons.1 hR
      cases hcl : committed.any c.clashes with
      | true =>
          rw [chosen_of_clash hcl]
          rcases List.mem_cons.1 hx with rfl | hx
          · exact .inl hcl
          · exact ih hrest hx
      | false =>
          rw [chosen_of_free hcl]
          rcases List.mem_cons.1 hx with rfl | hx
          · exact .inr (.inl List.mem_cons_self)
          rcases @ih (c :: committed) hrest hx with hblocked | hchosen | ⟨f, hf, hfx⟩
          · -- what blocks `x` was committed before, or it is `c`, which comes before `x`
            rw [List.any_cons, Bool.or_eq_true] at hblocked
            rcases hblocked with hxc | hblocked
            · exact .inr (.inr ⟨c, List.mem_cons_self, hc x hx, hxc⟩)
            · exact .inl hblocked
          · exact .inr (.inl (List.mem_cons_of_mem c hchosen))
          · exact .inr (.inr ⟨f, List.mem_cons_of_mem c hf, hfx⟩)

/-- Of what is committed, it only matters what clashes with it. -/
theorem chosen_congr {committed' : List Comparison}
    (h : ∀ c ∈ cs, committed.any c.clashes = committed'.any c.clashes) :
    chosen committed cs = chosen committed' cs := by
  induction cs generalizing committed committed' with
  | nil => rfl
  | cons c rest ih =>
      have hrest : ∀ x ∈ rest, committed.any x.clashes = committed'.any x.clashes :=
        fun x hx => h x (List.mem_cons_of_mem c hx)
      simp only [chosen, h c List.mem_cons_self]
      split
      · exact ih hrest
      · exact congrArg (c :: ·) (ih fun x hx => by simp only [List.any_cons, hrest x hx])

/-- **A commitment leaves out what clashes with it**, and that is all it does. -/
theorem chosen_cons (k : Comparison) (committed cs : List Comparison) :
    chosen (k :: committed) cs = chosen committed (cs.filter fun c => !c.clashes k) := by
  induction cs generalizing committed with
  | nil => rfl
  | cons c rest ih =>
      cases hk : c.clashes k with
      | true =>
          rw [chosen_of_clash (by simp [hk]), List.filter_cons_of_neg (by simp [hk]), ih]
      | false =>
          rw [List.filter_cons_of_pos (by simp [hk])]
          cases hc : committed.any c.clashes with
          | true =>
              rw [chosen_of_clash (by simp [hc]), chosen_of_clash hc, ih]
          | false =>
              -- `c` is committed after `k` on one side and before it on the other
              have hswap : chosen (c :: k :: committed) rest = chosen (k :: c :: committed) rest :=
                chosen_congr fun x _ => by simp only [List.any_cons, Bool.or_left_comm]
              rw [chosen_of_free (by simp [hk, hc]), chosen_of_free hc, hswap, ih]

/-- What is looked for is still found when all of it is kept. -/
theorem any_filter_of_imp {l : List Comparison} {p keep : Comparison → Bool}
    (h : ∀ x ∈ l, p x → keep x) : (l.filter keep).any p = l.any p := by
  rw [List.any_filter, Bool.eq_iff_iff, List.any_eq_true, List.any_eq_true]
  refine ⟨fun ⟨x, hx, hp⟩ => ⟨x, hx, (Bool.and_eq_true_iff.1 hp).2⟩, fun ⟨x, hx, hp⟩ => ?_⟩
  exact ⟨x, hx, Bool.and_eq_true_iff.2 ⟨h x hx hp, hp⟩⟩

/-- **Leaving comparisons out.**  If whatever is committed or chosen and clashes with a kept
comparison is kept, then what is chosen from the kept ones is what was chosen and is kept. -/
theorem chosen_filter {keep : Comparison → Bool}
    (h : ∀ c ∈ cs, keep c → ∀ f, f ∈ committed ∨ f ∈ chosen committed cs → c.clashes f → keep f) :
    chosen (committed.filter keep) (cs.filter keep) = (chosen committed cs).filter keep := by
  induction cs generalizing committed with
  | nil => rfl
  | cons c rest ih =>
      have hany (hkeep : keep c = true) :
          (committed.filter keep).any c.clashes = committed.any c.clashes :=
        any_filter_of_imp fun f hf => h c List.mem_cons_self hkeep f (.inl hf)
      cases hcl : committed.any c.clashes with
      | true =>
          rw [chosen_of_clash hcl] at h ⊢
          have hrest := ih fun x hx => h x (List.mem_cons_of_mem c hx)
          cases hkeep : keep c with
          | false => rw [List.filter_cons_of_neg (by simp [hkeep]), hrest]
          | true =>
              rw [List.filter_cons_of_pos hkeep, chosen_of_clash ((hany hkeep).trans hcl), hrest]
      | false =>
          rw [chosen_of_free hcl] at h ⊢
          -- what clashes is committed, chosen later, or `c` itself, which is chosen now
          have hrest := @ih (c :: committed) fun x hx hkx f hf hxf => by
            refine h x (List.mem_cons_of_mem c hx) hkx f ?_ hxf
            rcases hf with hf | hf
            · exact (List.mem_cons.1 hf).elim (fun e => .inr (e ▸ List.mem_cons_self)) .inl
            · exact .inr (List.mem_cons_of_mem c hf)
          cases hkeep : keep c with
          | false =>
              have hneg : ¬ keep c = true := by simp [hkeep]
              rw [List.filter_cons_of_neg hneg] at hrest
              rw [List.filter_cons_of_neg hneg, List.filter_cons_of_neg hneg, hrest]
          | true =>
              rw [List.filter_cons_of_pos hkeep] at hrest
              rw [List.filter_cons_of_pos hkeep, List.filter_cons_of_pos hkeep,
                chosen_of_free ((hany hkeep).trans hcl), hrest]

end ResourceMoves.Matching
