import ResourceMoves.Proofs.Matching.Solve

/-!
# Matching — taking candidates away

A matching is used piece by piece: some of its moves are applied, their resources are gone, and the
rest is matched again.  **The rest is undisturbed** (`solve_without`): when the candidates that are
taken away contain both sides of each match or none, solving what is left gives the matching from
which all that touches them is taken out (`Matching.without`).

The ranked list of the remaining comparisons is the old one with gaps (`Distinct.ranked_filter`).
What could disturb the rest is a match that is gone and made room, or one that is new and takes it.
Neither happens: a remaining comparison has no candidate in common with a match that is gone, since
then one of its own candidates would be gone (`Judge.found_filter`).
-/

namespace ResourceMoves.Matching

open ResourceMoves.Plan (Candidate)

/-- The matching without all that touches the deletes of one set and the creates of another. -/
def without (m : Matching) (deletesGone createsGone : Candidate → Bool) : Matching where
  found            := m.found.filter fun x => !deletesGone x.delete && !createsGone x.create
  unmatchedDeletes := m.unmatchedDeletes.filter fun d => !deletesGone d
  unmatchedCreates := m.unmatchedCreates.filter fun c => !createsGone c
  comparisons      := m.comparisons.filter fun x => !deletesGone x.delete && !createsGone x.create

variable {judge : Judge} {deletes creates : List Candidate}
  {deletesGone createsGone : Candidate → Bool}

/-- What is found among the remaining candidates is what was found and remains. -/
theorem Judge.found_filter (hd : Unique deletes) (hc : Unique creates)
    (hboth : ∀ x ∈ judge.found deletes creates, deletesGone x.delete = createsGone x.create) :
    judge.found (deletes.filter fun d => !deletesGone d) (creates.filter fun c => !createsGone c) =
      (judge.found deletes creates).filter
        fun x => !deletesGone x.delete && !createsGone x.create := by
  rw [found, comparisons_filter, ← (judge.comparisons_distinct hd hc).ranked_filter]
  refine @chosen_filter [] _ _ fun x hx hkeep f hf hxf => ?_
  have hf : f ∈ judge.found deletes creates := hf.resolve_left List.not_mem_nil
  have hfx := mem_comparisons_of_mem_found hf
  have hx := Comparison.mem_ranked.1 hx
  -- `f` has a candidate in common with the kept `x`, so that one of its candidates is not gone
  have hgone : deletesGone f.delete = false ∨ createsGone f.create = false := by
    simp only [Bool.and_eq_true, Bool.not_eq_true'] at hkeep
    rcases Bool.or_eq_true_iff.1 hxf with h | h
    · have e : x.delete = f.delete := hd.eq_of_address_eq (delete_mem_of_mem_comparisons hx)
        (delete_mem_of_mem_comparisons hfx) (beq_iff_eq.1 h)
      exact .inl (e ▸ hkeep.1)
    · have e : x.create = f.create := hc.eq_of_address_eq (create_mem_of_mem_comparisons hx)
        (create_mem_of_mem_comparisons hfx) (beq_iff_eq.1 h)
      exact .inr (e ▸ hkeep.2)
  rw [← hboth f hf, or_self] at hgone
  simp [hgone, ← hboth f hf]

/-- What is unmatched among the remaining candidates of one side is what was unmatched and
remains. -/
theorem unmatched_filter {side : Comparison → Candidate} {found : List Comparison}
    {candidates : List Candidate} {gone : Candidate → Bool} {keep : Comparison → Bool}
    (h : Unique candidates) (hside : ∀ x ∈ found, side x ∈ candidates)
    (hkeep : ∀ x ∈ found, gone (side x) = false → keep x) :
    unmatched side (found.filter keep) (candidates.filter fun c => !gone c) =
      (unmatched side found candidates).filter fun c => !gone c := by
  rw [unmatched, unmatched, List.filter_filter, List.filter_filter]
  refine List.filter_congr fun c hc => ?_
  cases hg : gone c with
  | true => simp
  | false =>
      rw [any_filter_of_imp fun x hx e => hkeep x hx ?_, Bool.and_comm]
      rwa [h.eq_of_address_eq (hside x hx) hc (beq_iff_eq.1 e)]

/-- **The rest is undisturbed.**  Solving candidates of unique addresses gives a matching.  Take any
deletes and creates away that contain, for each of its matches, both candidates or neither: solving
the others gives the matching without all that touches those. -/
theorem solve_without (hd : Unique deletes) (hc : Unique creates) :
    ∃ m, solve .never judge deletes creates = .ok m ∧
      ∀ deletesGone createsGone : Candidate → Bool,
        (∀ x ∈ m.found, deletesGone x.delete = createsGone x.create) →
          solve .never judge (deletes.filter fun d => !deletesGone d)
            (creates.filter fun c => !createsGone c) = .ok (m.without deletesGone createsGone) := by
  refine ⟨judge.matching deletes creates, solve_never hd hc, fun dg cg hboth => ?_⟩
  have hd' : Unique (deletes.filter fun d => !dg d) := hd.sublist (List.filter_sublist.map _)
  have hc' : Unique (creates.filter fun c => !cg c) := hc.sublist (List.filter_sublist.map _)
  have hdeletes : unmatched (·.delete)
        ((judge.found deletes creates).filter fun x => !dg x.delete && !cg x.create)
        (deletes.filter fun d => !dg d) =
      (unmatched (·.delete) (judge.found deletes creates) deletes).filter fun d => !dg d :=
    unmatched_filter hd (fun x hx => Judge.delete_mem_of_mem_found hx)
      fun x hx h => by simp [h, ← hboth x hx]
  have hcreates : unmatched (·.create)
        ((judge.found deletes creates).filter fun x => !dg x.delete && !cg x.create)
        (creates.filter fun c => !cg c) =
      (unmatched (·.create) (judge.found deletes creates) creates).filter fun c => !cg c :=
    unmatched_filter hc (fun x hx => Judge.create_mem_of_mem_found hx)
      fun x hx h => by simp [h, hboth x hx]
  rw [solve_never hd' hc', Judge.matching, Judge.found_filter hd hc hboth,
    Judge.comparisons_filter, hdeletes, hcreates]
  rfl

/-- When the first move is applied, the second is left. -/
theorem solve_without_crossing :
    Unique [bare .delete "t.d1", bare .delete "t.d2"] ∧
      Unique [bare .create "t.c1", bare .create "t.c2"] ∧
      ∃ m, solve .never crossing [bare .delete "t.d1", bare .delete "t.d2"]
          [bare .create "t.c1", bare .create "t.c2"] = .ok m ∧
        (∀ x ∈ m.found, (x.delete.address == "t.d1") = (x.create.address == "t.c1")) ∧
        solve .never crossing [bare .delete "t.d2"] [bare .create "t.c2"] =
          .ok (m.without (·.address == "t.d1") (·.address == "t.c1")) := by
  have hd : Unique [bare .delete "t.d1", bare .delete "t.d2"] := by decide
  have hc : Unique [bare .create "t.c1", bare .create "t.c2"] := by decide
  obtain ⟨m, hm, hrest⟩ := @solve_without crossing _ _ hd hc
  have hboth : ∀ x ∈ m.found, (x.delete.address == "t.d1") = (x.create.address == "t.c1") := by
    have hfound : m.found = [crossing.compare (bare .delete "t.d1") (bare .create "t.c1"),
        crossing.compare (bare .delete "t.d2") (bare .create "t.c2")] := by
      cases hm.symm.trans (solve_never hd hc)
      cbv
    rw [hfound]
    simp [Judge.compare, bare]
  exact ⟨hd, hc, m, hm, hboth, hrest (·.address == "t.d1") (·.address == "t.c1") hboth⟩

end ResourceMoves.Matching
