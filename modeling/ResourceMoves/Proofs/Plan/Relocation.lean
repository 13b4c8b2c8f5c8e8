import ResourceMoves.Proofs.Plan.Candidates

/-!
# Plan — moves relocate safely

The moves of an analysed plan are carried out on live state, so none may land on an address that is
in use or leave from one that another move fills.  **They are safe** (`analyse_moves_safe`): no two
leave from one address or go to one, no address is left by one and filled by another, and each
leads from an instance that the plan only destroys to one of its type that the plan only creates.

No single step sees to this.  That matches have no candidate in common is the work of the greedy
pass (`Judge.found_pairwise`), that their types agree is due to the pairs that are compared, and
that origins and targets are apart to the extraction, which gives no candidate where an address is
both destroyed and created (`exists_entry_of_mem_deletes`).
-/

namespace ResourceMoves.Plan

open ResourceMoves.Matching (Comparison Judge Watch judgeBy)

/-- Moves that relocate what a plan destroys to what it creates, none in the way of another. -/
structure SafeMoves (p : Plan) (moves : List Move) : Prop where
  origins_nodup    : (moves.map (·.origin)).Nodup
  targets_nodup    : (moves.map (·.target)).Nodup
  origin_ne_target : ∀ x ∈ moves, ∀ y ∈ moves, x.origin ≠ y.target
  ends             : ∀ x ∈ moves, ∃ d ∈ p.entries, ∃ c ∈ p.entries,
    d.Only .delete ∧ d.address = x.origin ∧ c.Only .create ∧ c.address = x.target ∧
      d.type = c.type

variable {p : Plan} {watch : Watch} {rules : List Ignore.Rule} {m : Matching}

/-- The two ends of a match are entries that only destroy and only create, at addresses where
nothing else is done that counts. -/
theorem exists_entries_of_mem_found {judge : Judge} {x : Comparison}
    (h : x ∈ judge.found p.candidates.deletes p.candidates.creates) :
    ∃ d ∈ p.entries, ∃ c ∈ p.entries, d.Only .delete ∧ d.address = x.delete.address ∧
      c.Only .create ∧ c.address = x.create.address ∧ d.type = c.type := by
  obtain ⟨d, hd, c, hc, ht, rfl⟩ :=
    Judge.mem_comparisons.1 (Judge.mem_comparisons_of_mem_found h)
  obtain ⟨e, he, hed, -, had, htd⟩ := exists_entry_of_mem_deletes hd
  obtain ⟨e', he', hec, -, hac, htc⟩ := exists_entry_of_mem_creates hc
  exact ⟨e, he, e', he', hed, had, hec, hac, htd.trans (ht.trans htc.symm)⟩

/-- An address that is destroyed is not one that is created. -/
theorem delete_address_ne_create_address {d c : Candidate} (hd : d ∈ p.candidates.deletes)
    (hc : c ∈ p.candidates.creates) : d.address ≠ c.address := by
  obtain ⟨-, -, -, hfree, -⟩ := exists_entry_of_mem_deletes hd
  obtain ⟨e, he, honly, -, haddress, -⟩ := exists_entry_of_mem_creates hc
  -- the entry of `c` creates at its address, where that of `d` must find nothing created
  intro h
  exact hfree (mem_addressesOf.2 ⟨e, he, (Entry.only_create_iff.1 honly).2, haddress.trans h.symm⟩)

/-- **The moves of an analysed plan are safe.** -/
theorem analyse_moves_safe (h : p.analyse watch rules = .ok m) : SafeMoves p m.moves := by
  obtain ⟨-, -, hsolve⟩ := analyse_eq_ok_iff.1 h
  obtain ⟨-, -, rfl⟩ := Matching.solve_eq_ok_iff.1 hsolve
  have hpairwise : ((judgeBy rules).found p.candidates.deletes p.candidates.creates).Pairwise
      fun a b => a.clashes b = false := Judge.found_pairwise
  refine ⟨?_, ?_, fun x hx y hy => ?_, fun x hx => ?_⟩
  · rw [Matching.moves, List.map_map, List.Nodup, List.pairwise_map]
    exact hpairwise.imp fun hab => (Comparison.clashes_eq_false_iff.1 hab).1
  · rw [Matching.moves, List.map_map, List.Nodup, List.pairwise_map]
    exact hpairwise.imp fun hab => (Comparison.clashes_eq_false_iff.1 hab).2
  · obtain ⟨f, hf, rfl⟩ := List.mem_map.1 hx
    obtain ⟨g, hg, rfl⟩ := List.mem_map.1 hy
    exact delete_address_ne_create_address (Judge.delete_mem_of_mem_found hf)
      (Judge.create_mem_of_mem_found hg)
  · obtain ⟨f, hf, rfl⟩ := List.mem_map.1 hx
    exact exists_entries_of_mem_found hf

/-- A renaming is safe, though its target is the address of a deposed object. -/
theorem analyse_moves_safe_renamed :
    ∃ m, renamed.analyse .never [] = .ok m ∧ m.moves = [⟨"t.a", "t.b"⟩] ∧
      SafeMoves renamed m.moves := by
  obtain ⟨m, hm, hmoves⟩ := analyse_renamed
  exact ⟨m, hm, hmoves, analyse_moves_safe hm⟩

end ResourceMoves.Plan
