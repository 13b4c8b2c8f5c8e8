import ResourceMoves.Proofs.Matching.Solve

/-!
# Matching — the greedy procedure

`Greedy` is the procedure that solving stands for: as long as there are candidates of one type on
both sides, match the two whose comparison is of the least rank, and go on without them.  It looks
at all remaining pairs before each match.  Solving looks at each pair once, in one ranked list, and
passes over the pairs whose candidates are taken.

**One pass is enough** (`solve_found_iff_greedy`).  For unique addresses the procedure has exactly
one result, and it is what solving finds, in the same order.  The invariant is
`Judge.found_cons_cons`: when the least pair is taken off both sides, what is found among the rest
is what is found after it.
-/

namespace ResourceMoves.Matching

open ResourceMoves.Plan (Candidate)
open Comparison (rank)

/-- The matches of the greedy procedure.  It stops when no delete has the type of a create, and else
takes a delete and a create of one type whose comparison is ranked before those of all pairs. -/
inductive Greedy (judge : Judge) : List Candidate → List Candidate → List Comparison → Prop
  | stop {deletes creates : List Candidate}
      (no_pair : ∀ d ∈ deletes, ∀ c ∈ creates, d.type ≠ c.type) :
      Greedy judge deletes creates []
  | take {deletes creates deletes' creates' : List Candidate} {d c : Candidate}
      {rest : List Comparison}
      (of_deletes : deletes.Perm (d :: deletes')) (of_creates : creates.Perm (c :: creates'))
      (same_type : d.type = c.type)
      (least : ∀ d' ∈ deletes, ∀ c' ∈ creates, d'.type = c'.type →
        (rank (judge.compare d c) (judge.compare d' c')).isLE)
      (go_on : Greedy judge deletes' creates' rest) :
      Greedy judge deletes creates (judge.compare d c :: rest)

variable {judge : Judge} {deletes creates : List Candidate} {d c : Candidate}

/-! ### Taking a pair off both sides -/

theorem filter_address_ne (h : Unique (d :: deletes)) :
    ((d :: deletes).filter fun x => x.address != d.address) = deletes := by
  obtain ⟨hd, -⟩ := List.nodup_cons.1 h
  rw [List.filter_cons_of_neg (by simp), List.filter_eq_self]
  intro x hx
  exact bne_iff_ne.2 fun e => hd (List.mem_map.2 ⟨x, hx, e⟩)

/-- The comparisons that have no candidate in common with that of two candidates are those of the
others. -/
theorem Judge.comparisons_filter_clashes (judge : Judge) (hd : Unique (d :: deletes))
    (hc : Unique (c :: creates)) :
    ((judge.comparisons (d :: deletes) (c :: creates)).filter
      fun x => !x.clashes (judge.compare d c)) = judge.comparisons deletes creates := by
  have h := judge.comparisons_filter (d :: deletes) (c :: creates)
    (fun x => x.address != d.address) (fun x => x.address != c.address)
  rw [filter_address_ne hd, filter_address_ne hc] at h
  rw [h]
  exact congrArg (List.filter · _) (funext fun x => Bool.not_or _ _)

/-- **Taking the least pair first.**  What is found begins with the pair of the least rank, and goes
on with what is found among the others. -/
theorem Judge.found_cons_cons (hd : Unique (d :: deletes)) (hc : Unique (c :: creates))
    (ht : d.type = c.type)
    (least : ∀ x ∈ judge.comparisons (d :: deletes) (c :: creates),
      (rank (judge.compare d c) x).isLE) :
    judge.found (d :: deletes) (c :: creates) =
      judge.compare d c :: judge.found deletes creates := by
  have hdist := judge.comparisons_distinct hd hc
  have hothers := judge.comparisons_filter_clashes hd hc
  obtain ⟨others, hcons⟩ : ∃ others, judge.comparisons (d :: deletes) (c :: creates) =
      judge.compare d c :: others := by
    rw [comparisons, pairs, List.flatMap_cons, List.filter_cons_of_pos (by simp [ht])]
    exact ⟨_, rfl⟩
  rw [hcons] at hdist hothers least
  have hself : (judge.compare d c).clashes (judge.compare d c) = true := by
    simp [Comparison.clashes]
  rw [List.filter_cons_of_neg (by simp [hself])] at hothers
  -- ranked first it is committed, and of the others those that clash with it fall out
  rw [found, found, hcons,
    hdist.ranked_cons fun x hx => least x (List.mem_cons_of_mem _ hx),
    chosen_of_free List.any_nil, chosen_cons,
    (hdist.sublist (List.sublist_cons_self _ _)).ranked_filter, hothers]

/-! ### The procedure and what is found -/

/-- The procedure always comes to an end. -/
theorem greedy_exists (judge : Judge) (deletes creates : List Candidate) :
    ∃ l, Greedy judge deletes creates l := by
  induction hn : deletes.length generalizing deletes creates with
  | zero =>
      obtain rfl := List.eq_nil_of_length_eq_zero hn
      exact ⟨[], .stop fun d hd => absurd hd List.not_mem_nil⟩
  | succ n ih =>
      have hsorted := Comparison.ranked_pairwise (judge.comparisons deletes creates)
      cases hr : Comparison.ranked (judge.comparisons deletes creates) with
      | nil =>
          refine ⟨[], .stop fun d hd c hc ht => ?_⟩
          have hmem := Comparison.mem_ranked.2 (judge.compare_mem_comparisons hd hc ht)
          rw [hr] at hmem
          exact List.not_mem_nil hmem
      | cons x rest =>
          -- the first of the ranked list is of the least rank: its two candidates are taken off
          have hx : x ∈ Comparison.ranked (judge.comparisons deletes creates) :=
            hr ▸ List.mem_cons_self
          obtain ⟨d, hd, c, hc, ht, rfl⟩ := Judge.mem_comparisons.1 (Comparison.mem_ranked.1 hx)
          obtain ⟨d₁, d₂, rfl⟩ := List.append_of_mem hd
          obtain ⟨c₁, c₂, rfl⟩ := List.append_of_mem hc
          obtain ⟨l, hl⟩ := ih (d₁ ++ d₂) (c₁ ++ c₂) (by simp at hn ⊢; omega)
          refine ⟨_, .take List.perm_middle List.perm_middle ht (fun d' hd' c' hc' ht' => ?_) hl⟩
          have hmem := Comparison.mem_ranked.2 (judge.compare_mem_comparisons hd' hc' ht')
          rw [hr] at hmem hsorted
          rcases List.mem_cons.1 hmem with e | hmem
          · rw [e]; exact Std.ReflCmp.isLE_rfl
          · exact (List.pairwise_cons.1 hsorted).1 _ hmem

/-- For unique addresses, the procedure has no other result than what is found. -/
theorem Greedy.eq_found {l : List Comparison} (h : Greedy judge deletes creates l)
    (hd : Unique deletes) (hc : Unique creates) : l = judge.found deletes creates := by
  induction h with
  | stop no_pair =>
      have hnil : judge.comparisons _ _ = [] := List.eq_nil_iff_forall_not_mem.2 fun x hx => by
        obtain ⟨d, hd, c, hc, ht, -⟩ := Judge.mem_comparisons.1 hx
        exact no_pair d hd c hc ht
      rw [Judge.found, hnil, Comparison.ranked_nil, chosen]
  | take of_deletes of_creates same_type least _ ih =>
      -- the pair may stand anywhere in its two lists; what is found does not depend on where
      have hd' : Unique (_ :: _) := (of_deletes.map _).nodup_iff.1 hd
      have hc' : Unique (_ :: _) := (of_creates.map _).nodup_iff.1 hc
      rw [Judge.found_congr hd' hc' of_deletes of_creates,
        Judge.found_cons_cons hd' hc' same_type fun x hx => ?_,
        ih (List.nodup_cons.1 hd').2 (List.nodup_cons.1 hc').2]
      obtain ⟨d', hdm, c', hcm, ht', rfl⟩ := Judge.mem_comparisons.1 hx
      exact least d' (of_deletes.mem_iff.2 hdm) c' (of_creates.mem_iff.2 hcm) ht'

/-- **One pass is enough.**  Solving candidates of unique addresses, with nothing to stop it,
succeeds, and its matches are the one result of the greedy procedure, in the same order. -/
theorem solve_found_iff_greedy (hd : Unique deletes) (hc : Unique creates) :
    ∃ m, solve .never judge deletes creates = .ok m ∧
      ∀ l, Greedy judge deletes creates l ↔ m.found = l := by
  refine ⟨judge.matching deletes creates, solve_never hd hc, fun l => ⟨?_, ?_⟩⟩
  · exact fun h => (h.eq_found hd hc).symm
  · rintro rfl
    obtain ⟨l, hl⟩ := greedy_exists judge deletes creates
    obtain rfl := hl.eq_found hd hc
    exact hl

/-- Both pairs without a difference are matched, and never crosswise. -/
theorem solve_found_iff_greedy_crossing :
    Unique [bare .delete "t.d1", bare .delete "t.d2"] ∧
      Unique [bare .create "t.c1", bare .create "t.c2"] ∧
      Greedy crossing [bare .delete "t.d1", bare .delete "t.d2"]
        [bare .create "t.c1", bare .create "t.c2"]
        [crossing.compare (bare .delete "t.d1") (bare .create "t.c1"),
          crossing.compare (bare .delete "t.d2") (bare .create "t.c2")] := by
  have hd : Unique [bare .delete "t.d1", bare .delete "t.d2"] := by decide
  have hc : Unique [bare .create "t.c1", bare .create "t.c2"] := by decide
  obtain ⟨m, hm, hgreedy⟩ := @solve_found_iff_greedy crossing _ _ hd hc
  refine ⟨hd, hc, (hgreedy _).2 ?_⟩
  cases hm.symm.trans (solve_never hd hc)
  cbv

end ResourceMoves.Matching
