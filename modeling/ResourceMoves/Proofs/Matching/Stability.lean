import Mathlib.Order.WellFoundedSet
import ResourceMoves.Proofs.Matching.Solve

/-!
# Matching — the matches are stable, and nothing else is

A set of comparisons is stable when none of its candidates is used twice and every comparison that
is left out is blocked: one of its candidates is in a comparison of the set that is ranked before it
(`Stable`).  No word is said of the order in which the set comes about.

**There is one stable set** (`Stable.eq`).  Two of them agree on a comparison as soon as they agree
on all that are ranked before it: what is in one and left out of the other is blocked there by a
comparison that both contain, and so uses a candidate twice (`Stable.mem_of_agree`).  The induction
is along the rank, which is well founded on the finitely many comparisons.

**Solving finds it** (`solve_stable`), in strictly increasing order of rank.  A comparison without a
difference that counts, whose candidates have no other such comparison, cannot be blocked
(`Stable.mem_of_score_eq_zero`), so a renaming of all resources is found if only the true pairs agree
(`Judge.found_perm_of_renaming`).
-/

namespace ResourceMoves.Matching

open ResourceMoves.Plan (Candidate)
open Comparison (rank)

/-! ### Ranked before -/

instance : IsStrictOrder Comparison fun a b => rank a b = .lt where
  irrefl a h := by
    have hself : rank a a = .eq := Std.ReflCmp.compare_self
    rw [hself] at h
    cases h
  trans _ _ _ := Std.TransCmp.lt_trans

theorem rank_self_ne_lt (a : Comparison) : rank a a ≠ .lt :=
  irrefl_of (fun a b => rank a b = .lt) a

/-- What is ranked before has no greater score. -/
theorem score_le_of_rank_eq_lt {a b : Comparison} (h : rank a b = .lt) : a.score ≤ b.score := by
  rcases Prod.Lex.toLex_lt_toLex.1 (Comparison.rank_eq_lt_iff.1 h) with hlt | ⟨heq, -⟩
  · exact Nat.le_of_lt hlt
  · exact Nat.le_of_eq heq

/-! ### Stable sets -/

/-- A set of the comparisons `cs` that uses no candidate twice and blocks the others: of each that
is left out, a candidate is in one of the set that is ranked before it. -/
structure Stable (cs : List Comparison) (taken : Set Comparison) : Prop where
  subset     : ∀ x ∈ taken, x ∈ cs
  one_to_one : ∀ x ∈ taken, ∀ y ∈ taken, x.clashes y → x = y
  blocked    : ∀ x ∈ cs, x ∉ taken → ∃ f ∈ taken, rank f x = .lt ∧ x.clashes f

namespace Stable

variable {cs : List Comparison} {s t : Set Comparison} {x : Comparison}

/-- What is in one stable set is in another that does not have more of what is ranked before. -/
theorem mem_of_agree (hs : Stable cs s) (ht : Stable cs t) (hx : x ∈ s)
    (agree : ∀ f ∈ cs, rank f x = .lt → f ∈ t → f ∈ s) : x ∈ t := by
  by_contra hxt
  obtain ⟨f, hf, hlt, hclash⟩ := ht.blocked x (hs.subset x hx) hxt
  obtain rfl := hs.one_to_one x hx f (agree f (ht.subset f hf) hlt hf) hclash
  exact rank_self_ne_lt x hlt

/-- **There is one stable set.** -/
theorem eq (hs : Stable cs s) (ht : Stable cs t) : s = t := by
  have hwf : {x | x ∈ cs}.WellFoundedOn fun a b => rank a b = .lt := cs.finite_toSet.wellFoundedOn
  have agree : ∀ x ∈ cs, (x ∈ s ↔ x ∈ t) := fun x hx =>
    hwf.induction (P := fun x => x ∈ s ↔ x ∈ t) hx fun y _ ih =>
      ⟨fun hy => hs.mem_of_agree ht hy fun f hf hlt => (ih f hf hlt).2,
        fun hy => ht.mem_of_agree hs hy fun f hf hlt => (ih f hf hlt).1⟩
  ext x
  exact ⟨fun hx => (agree x (hs.subset x hx)).1 hx, fun hx => (agree x (ht.subset x hx)).2 hx⟩

/-- A comparison of score zero is in the stable set when its candidates have no other. -/
theorem mem_of_score_eq_zero (hs : Stable cs s) (hx : x ∈ cs) (hscore : x.score = 0)
    (alone : ∀ y ∈ cs, y.score = 0 → x.clashes y → y = x) : x ∈ s := by
  by_contra hxs
  obtain ⟨f, hf, hlt, hclash⟩ := hs.blocked x hx hxs
  have hfscore : f.score = 0 := Nat.le_zero.1 (hscore ▸ score_le_of_rank_eq_lt hlt)
  obtain rfl := alone f (hs.subset f hf) hfscore hclash
  exact rank_self_ne_lt f hlt

end Stable

/-! ### What is found -/

variable {watch : Watch} {judge : Judge} {deletes creates : List Candidate} {m : Matching}

namespace Judge

/-- The matches are ranked, no two alike. -/
theorem found_pairwise_lt (hd : Unique deletes) (hc : Unique creates) :
    (judge.found deletes creates).Pairwise fun a b => rank a b = .lt :=
  (judge.comparisons_distinct hd hc).ranked_pairwise_lt.sublist (chosen_sublist _ _)

/-- Two matches with a candidate in common are one. -/
theorem eq_of_clashes {x y : Comparison} (hx : x ∈ judge.found deletes creates)
    (hy : y ∈ judge.found deletes creates) (h : x.clashes y) : x = y := by
  have : Std.Symm fun a b : Comparison => a.clashes b = false :=
    ⟨fun a b hab => by rwa [Comparison.clashes_comm]⟩
  by_contra hne
  rw [found_pairwise.forall hx hy hne] at h
  cases h

/-- The matches are the stable set of the comparisons. -/
theorem found_stable (hd : Unique deletes) (hc : Unique creates) :
    Stable (judge.comparisons deletes creates) {x | x ∈ judge.found deletes creates} where
  subset _ hx := mem_comparisons_of_mem_found hx
  one_to_one _ hx _ hy h := eq_of_clashes hx hy h
  blocked _ hx hnot := (mem_found_or_blocked hd hc hx).resolve_left hnot

/-- **A renaming is found.**  When all candidates are the two ends of a renaming, and no others than
these agree in all that counts, the matches are its pairs. -/
theorem found_perm_of_renaming (hd : Unique deletes) (hc : Unique creates)
    {renames : List (Candidate × Candidate)} (hold : (renames.map Prod.fst).Perm deletes)
    (hnew : (renames.map Prod.snd).Perm creates) (htype : ∀ r ∈ renames, r.1.type = r.2.type)
    (hscore : ∀ d ∈ deletes, ∀ c ∈ creates, d.type = c.type →
      ((judge d c).score = 0 ↔ (d, c) ∈ renames)) :
    (judge.found deletes creates).Perm (renames.map fun r => judge.compare r.1 r.2) := by
  have holds : (renames.map fun r => r.1.address).Nodup := by
    have h := hd.of_perm hold
    rwa [Unique, List.map_map] at h
  have hnews : (renames.map fun r => r.2.address).Nodup := by
    have h := hc.of_perm hnew
    rwa [Unique, List.map_map] at h
  -- each pair of the renaming is a match
  have hfound : ∀ r ∈ renames, judge.compare r.1 r.2 ∈ judge.found deletes creates := by
    intro r hr
    have hrd : r.1 ∈ deletes := hold.mem_iff.1 (List.mem_map_of_mem hr)
    have hrc : r.2 ∈ creates := hnew.mem_iff.1 (List.mem_map_of_mem hr)
    refine (found_stable hd hc).mem_of_score_eq_zero
      (judge.compare_mem_comparisons hrd hrc (htype r hr))
      ((hscore r.1 hrd r.2 hrc (htype r hr)).2 hr) fun y hy hyscore hclash => ?_
    obtain ⟨d, hyd, c, hyc, hyt, rfl⟩ := mem_comparisons.1 hy
    have hmem : (d, c) ∈ renames := (hscore d hyd c hyc hyt).1 hyscore
    have hsame : r = (d, c) := by
      rcases Bool.or_eq_true_iff.1 hclash with e | e
      · exact List.inj_on_of_nodup_map holds hr hmem (beq_iff_eq.1 e)
      · exact List.inj_on_of_nodup_map hnews hr hmem (beq_iff_eq.1 e)
    rw [hsame]
  refine (List.perm_ext_iff_of_nodup ?_ ?_).2 fun x => ⟨fun hx => ?_, fun hx => ?_⟩
  · refine List.Pairwise.imp (fun {a b} hlt e => ?_) (found_pairwise_lt hd hc)
    exact rank_self_ne_lt b (e ▸ hlt)
  · exact .of_map (·.delete.address) (by rwa [List.map_map])
  · -- a match has its delete in common with a pair of the renaming, so it is that pair
    obtain ⟨r, hr, e⟩ := List.mem_map.1 (hold.mem_iff.2 (delete_mem_of_mem_found hx))
    have hclash : x.clashes (judge.compare r.1 r.2) := by simp [Comparison.clashes, compare, e]
    exact List.mem_map.2 ⟨r, hr, (eq_of_clashes hx (hfound r hr) hclash).symm⟩
  · obtain ⟨r, hr, rfl⟩ := List.mem_map.1 hx
    exact hfound r hr

end Judge

/-! ### Solving -/

/-- **The matches are the one stable set.**  When solving succeeds, its comparisons are those of all
pairs of one type, its matches strictly increase in rank, and they are the one stable set of the
comparisons.  A comparison of score zero is a match when its candidates have no other, and a
renaming of all candidates is what is found if just its pairs have score zero. -/
theorem solve_stable (h : solve watch judge deletes creates = .ok m) :
    (∀ x, x ∈ m.comparisons ↔
      ∃ d ∈ deletes, ∃ c ∈ creates, d.type = c.type ∧ judge.compare d c = x) ∧
    (m.found.Pairwise fun a b => rank a b = .lt) ∧
    Stable m.comparisons {x | x ∈ m.found} ∧
    (∀ taken, Stable m.comparisons taken → taken = {x | x ∈ m.found}) ∧
    (∀ x ∈ m.comparisons, x.score = 0 →
      (∀ y ∈ m.comparisons, y.score = 0 → x.clashes y → y = x) → x ∈ m.found) ∧
    (∀ renames : List (Candidate × Candidate), (renames.map Prod.fst).Perm deletes →
      (renames.map Prod.snd).Perm creates → (∀ r ∈ renames, r.1.type = r.2.type) →
      (∀ d ∈ deletes, ∀ c ∈ creates, d.type = c.type →
        ((judge d c).score = 0 ↔ (d, c) ∈ renames)) →
      m.found.Perm (renames.map fun r => judge.compare r.1 r.2)) := by
  obtain ⟨⟨hd, hc⟩, -, rfl⟩ := solve_eq_ok_iff.1 h
  have hstable : Stable (judge.comparisons deletes creates)
      {x | x ∈ judge.found deletes creates} := Judge.found_stable hd hc
  refine ⟨fun x => Judge.mem_comparisons, Judge.found_pairwise_lt hd hc, hstable,
    fun taken htaken => htaken.eq hstable, fun x hx hscore alone => ?_,
    fun renames hold hnew htype hscore => ?_⟩
  · exact hstable.mem_of_score_eq_zero hx hscore alone
  · exact Judge.found_perm_of_renaming hd hc hold hnew htype hscore

/-- Two renamed resources are found by their score, though the pairs across are compared too. -/
theorem solve_stable_crossing :
    ∃ m, solve .never crossing [bare .delete "t.d1", bare .delete "t.d2"]
        [bare .create "t.c1", bare .create "t.c2"] = .ok m ∧
      Stable m.comparisons {x | x ∈ m.found} ∧
      m.found.Perm [crossing.compare (bare .delete "t.d1") (bare .create "t.c1"),
        crossing.compare (bare .delete "t.d2") (bare .create "t.c2")] := by
  have hm := @solve_never crossing [bare .delete "t.d1", bare .delete "t.d2"]
    [bare .create "t.c1", bare .create "t.c2"] (by decide) (by decide)
  obtain ⟨-, -, hstable, -, -, hrenames⟩ := solve_stable hm
  refine ⟨_, hm, hstable, hrenames [(bare .delete "t.d1", bare .create "t.c1"),
    (bare .delete "t.d2", bare .create "t.c2")] (.refl _) (.refl _) ?_ ?_⟩
  · simp [bare]
  · simp [bare, crossing]

end ResourceMoves.Matching
