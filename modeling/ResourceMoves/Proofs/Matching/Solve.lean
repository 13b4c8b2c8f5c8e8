import Mathlib.Data.List.Nodup
import Mathlib.Data.List.Permutation
import ResourceMoves.Proofs.Matching.Commit
import ResourceMoves.Proofs.Matching.Rank
import ResourceMoves.Proofs.Result

/-!
# Matching — what solving gives

`solve` checks both sides for a repeated address, compares all pairs of one type, and commits the
ranked comparisons, with a question to the watch between any two steps.  Taken together, it gives
`Judge.matching` when the addresses are unique and the watch does not interrupt
(`solve_eq_ok_iff`); that is all that later modules know of it.

The comparisons of unique candidates are of different addresses (`Judge.comparisons_distinct`).
They follow the candidates: a permutation of the candidates permutes them
(`Judge.comparisons_perm`), and leaving out candidates leaves out the comparisons that touch them
(`Judge.comparisons_filter`).
-/

namespace ResourceMoves.Matching

open ResourceMoves.Plan (Candidate Side)

/-- No two of the candidates have the same address. -/
abbrev Unique (candidates : List Candidate) : Prop := (candidates.map (·.address)).Nodup

/-- All comparisons of candidates of one type, in the order of their pairs. -/
def Judge.comparisons (judge : Judge) (deletes creates : List Candidate) : List Comparison :=
  (pairs deletes creates).map fun p => judge.compare p.1 p.2

/-- The comparisons that become matches. -/
def Judge.found (judge : Judge) (deletes creates : List Candidate) : List Comparison :=
  chosen [] (Comparison.ranked (judge.comparisons deletes creates))

/-- The candidates of one side that are in no match. -/
def unmatched (side : Comparison → Candidate) (found : List Comparison)
    (candidates : List Candidate) : List Candidate :=
  candidates.filter fun c => !found.any fun x => (side x).address == c.address

/-- The matching of candidates when nothing stops the work. -/
def Judge.matching (judge : Judge) (deletes creates : List Candidate) : Matching where
  found            := judge.found deletes creates
  unmatchedDeletes := unmatched (·.delete) (judge.found deletes creates) deletes
  unmatchedCreates := unmatched (·.create) (judge.found deletes creates) creates
  comparisons      := judge.comparisons deletes creates

/-- The watch stops the work on so many pairs after the addresses were checked. -/
def Watch.interrupts (watch : Watch) (pairs : Nat) : Bool :=
  watch .entry || (List.range pairs).any (fun i => watch (.pair i)) ||
    (List.range pairs).any fun i => watch (.step pairs i)

variable {watch : Watch} {judge : Judge} {deletes creates : List Candidate} {m : Matching}

/-! ### Unique addresses -/

/-- An address has one candidate. -/
theorem Unique.eq_of_address_eq {candidates : List Candidate} (h : Unique candidates)
    {a b : Candidate} (ha : a ∈ candidates) (hb : b ∈ candidates) (e : a.address = b.address) :
    a = b :=
  List.inj_on_of_nodup_map h ha hb e

theorem Unique.of_perm {candidates candidates' : List Candidate} (h : Unique candidates)
    (hperm : candidates'.Perm candidates) : Unique candidates' :=
  (hperm.map _).nodup_iff.2 h

theorem firstRepeat?_eq_none_iff (seen ss : List String) :
    firstRepeat? seen ss = none ↔ ss.Nodup ∧ ∀ s ∈ ss, s ∉ seen := by
  induction ss generalizing seen with
  | nil => simp [firstRepeat?]
  | cons s ss ih =>
      by_cases hs : s ∈ seen
      · simp [firstRepeat?, hs]
      · rw [firstRepeat?, if_neg (by simpa using hs), ih, List.nodup_cons, List.forall_mem_cons]
        simp only [List.mem_cons, not_or]
        constructor
        · rintro ⟨hn, hss⟩
          exact ⟨⟨fun h => (hss s h).1 rfl, hn⟩, hs, fun x hx => (hss x hx).2⟩
        · rintro ⟨⟨hs', hn⟩, -, hss⟩
          exact ⟨hn, fun x hx => ⟨fun e => hs' (e ▸ hx), hss x hx⟩⟩

theorem checkUnique_eq_ok_iff {side : Side} {candidates : List Candidate} :
    checkUnique side candidates = .ok () ↔ Unique candidates := by
  have h := firstRepeat?_eq_none_iff [] (candidates.map (·.address))
  simp only [List.not_mem_nil, not_false_eq_true, implies_true, and_true] at h
  rw [Unique, ← h, checkUnique]
  split <;> simp [*]

/-! ### Comparing under a watch -/

/-- All pairs are compared, unless the watch stops the work at one of them. -/
theorem compareAll_eq (watch : Watch) (judge : Judge) :
    ∀ (ps : List (Candidate × Candidate)) (i : Nat),
      compareAll watch judge i ps =
        if (List.range' i ps.length).any fun j => watch (.pair j) then .error .cancelled
        else .ok (ps.map fun p => judge.compare p.1 p.2)
  | [], _ => rfl
  | p :: rest, i => by
      simp only [compareAll, checkpoint, List.length_cons, List.range'_succ, List.any_cons]
      cases watch (.pair i) with
      | true => rfl
      | false =>
          rw [compareAll_eq watch judge rest]
          cases (List.range' (i + 1) rest.length).any fun j => watch (.pair j) <;> rfl

theorem Judge.length_comparisons (judge : Judge) :
    (judge.comparisons deletes creates).length = (pairs deletes creates).length :=
  List.length_map _

/-- **What solving gives** for unique addresses: the matching, unless the watch interrupts. -/
theorem solve_eq (hd : Unique deletes) (hc : Unique creates) :
    solve watch judge deletes creates =
      if watch.interrupts (pairs deletes creates).length then .error .cancelled
      else .ok (judge.matching deletes creates) := by
  simp only [solve, checkUnique_eq_ok_iff.2 hd, checkUnique_eq_ok_iff.2 hc, checkpoint,
    compareAll_eq, commit_eq, Watch.interrupts, List.range_eq_range']
  cases watch .entry with
  | true => rfl
  | false =>
      cases (List.range' 0 (pairs deletes creates).length).any fun i => watch (.pair i) with
      | true => rfl
      | false =>
          -- ranking leaves their number as it is, so the watch is asked once for each pair
          have hranked := (Comparison.ranked_perm (judge.comparisons deletes creates)).length_eq
          simp only [bind, Except.bind, Bool.false_eq_true, if_false, Bool.false_or]
          rw [← Judge.comparisons, hranked, judge.length_comparisons]
          cases (List.range' 0 (pairs deletes creates).length).any fun i =>
            watch (.step (pairs deletes creates).length i) <;> rfl

theorem unique_of_solve (h : solve watch judge deletes creates = .ok m) :
    Unique deletes ∧ Unique creates := by
  obtain ⟨⟨⟩, hd, h⟩ := bind_eq_ok_iff.1 h
  obtain ⟨⟨⟩, hc, -⟩ := bind_eq_ok_iff.1 h
  exact ⟨checkUnique_eq_ok_iff.1 hd, checkUnique_eq_ok_iff.1 hc⟩

/-- Solving succeeds just when the addresses of each side are unique and the watch does not
interrupt, and then it gives the matching. -/
theorem solve_eq_ok_iff :
    solve watch judge deletes creates = .ok m ↔
      (Unique deletes ∧ Unique creates) ∧ watch.interrupts (pairs deletes creates).length = false ∧
        m = judge.matching deletes creates := by
  constructor
  · intro h
    obtain ⟨hd, hc⟩ := unique_of_solve h
    rw [solve_eq hd hc] at h
    cases hw : watch.interrupts (pairs deletes creates).length with
    | true => rw [hw] at h; cases h
    | false => rw [hw] at h; cases h; exact ⟨⟨hd, hc⟩, rfl, rfl⟩
  · rintro ⟨⟨hd, hc⟩, hw, rfl⟩
    rw [solve_eq hd hc, hw]
    rfl

theorem solve_never (hd : Unique deletes) (hc : Unique creates) :
    solve .never judge deletes creates = .ok (judge.matching deletes creates) := by
  rw [solve_eq hd hc, if_neg]
  simp [Watch.interrupts, Watch.never]

/-! ### Pairs and comparisons -/

theorem mem_pairs {p : Candidate × Candidate} :
    p ∈ pairs deletes creates ↔ p.1 ∈ deletes ∧ p.2 ∈ creates ∧ p.1.type = p.2.type := by
  simp only [pairs, List.mem_flatMap, List.mem_map, List.mem_filter, beq_iff_eq]
  constructor
  · rintro ⟨d, hd, c, ⟨hc, ht⟩, rfl⟩
    exact ⟨hd, hc, ht.symm⟩
  · rintro ⟨hd, hc, ht⟩
    exact ⟨p.1, hd, p.2, ⟨hc, ht.symm⟩, rfl⟩

/-- Solving asks the judge about the pairs of one type and about nothing else. -/
theorem solve_congr {judge' : Judge}
    (h : ∀ d ∈ deletes, ∀ c ∈ creates, d.type = c.type → judge d c = judge' d c) :
    solve watch judge deletes creates = solve watch judge' deletes creates := by
  have hpairs : ((pairs deletes creates).map fun p => judge.compare p.1 p.2) =
      (pairs deletes creates).map fun p => judge'.compare p.1 p.2 := by
    refine List.map_congr_left fun p hp => ?_
    obtain ⟨hd, hc, ht⟩ := mem_pairs.1 hp
    rw [Judge.compare, Judge.compare, h p.1 hd p.2 hc ht]
  rw [solve, solve, compareAll_eq, compareAll_eq, hpairs]

theorem pairs_filter (f g : Candidate → Bool) :
    pairs (deletes.filter f) (creates.filter g) =
      (pairs deletes creates).filter fun p => f p.1 && g p.2 := by
  induction deletes with
  | nil => rfl
  | cons d rest ih =>
      have hcons : pairs (d :: rest) creates =
          (creates.filter fun c => c.type == d.type).map (d, ·) ++ pairs rest creates := rfl
      rw [hcons, List.filter_append, ← ih, List.filter_map, List.filter_filter]
      cases hf : f d with
      | false => simp [hf]
      | true => simp [hf, pairs, List.filter_filter, Bool.and_comm]

namespace Judge

theorem mem_comparisons {x : Comparison} :
    x ∈ judge.comparisons deletes creates ↔
      ∃ d ∈ deletes, ∃ c ∈ creates, d.type = c.type ∧ judge.compare d c = x := by
  simp only [comparisons, List.mem_map, mem_pairs, Prod.exists]
  constructor
  · rintro ⟨d, c, ⟨hd, hc, ht⟩, rfl⟩
    exact ⟨d, hd, c, hc, ht, rfl⟩
  · rintro ⟨d, hd, c, hc, ht, rfl⟩
    exact ⟨d, c, ⟨hd, hc, ht⟩, rfl⟩

theorem delete_mem_of_mem_comparisons {x : Comparison}
    (h : x ∈ judge.comparisons deletes creates) : x.delete ∈ deletes := by
  obtain ⟨d, hd, c, -, -, rfl⟩ := mem_comparisons.1 h
  exact hd

theorem create_mem_of_mem_comparisons {x : Comparison}
    (h : x ∈ judge.comparisons deletes creates) : x.create ∈ creates := by
  obtain ⟨d, -, c, hc, -, rfl⟩ := mem_comparisons.1 h
  exact hc

variable (judge) in
theorem compare_mem_comparisons {d c : Candidate} (hd : d ∈ deletes) (hc : c ∈ creates)
    (ht : d.type = c.type) : judge.compare d c ∈ judge.comparisons deletes creates :=
  mem_comparisons.2 ⟨d, hd, c, hc, ht, rfl⟩

variable (judge deletes creates) in
/-- The comparisons of one delete after those of another. -/
theorem comparisons_eq_flatMap : judge.comparisons deletes creates = deletes.flatMap fun d =>
    (creates.filter fun c => c.type == d.type).map (judge.compare d) := by
  simp [comparisons, pairs, List.map_flatMap, Function.comp_def]

variable (judge) in
/-- The comparisons of unique candidates are of different addresses. -/
theorem comparisons_distinct (hd : Unique deletes) (hc : Unique creates) :
    Comparison.Distinct (judge.comparisons deletes creates) := by
  rw [Comparison.Distinct, List.Nodup, List.pairwise_map, comparisons_eq_flatMap,
    List.pairwise_flatMap]
  refine ⟨fun d _ => ?_, (List.pairwise_map.1 hd).imp fun hne x hx y hy => ?_⟩
  · rw [List.pairwise_map]
    exact ((List.pairwise_map.1 hc).filter _).imp fun hne e => hne (congrArg Prod.snd e)
  · obtain ⟨_, -, rfl⟩ := List.mem_map.1 hx
    obtain ⟨_, -, rfl⟩ := List.mem_map.1 hy
    exact fun e => hne (congrArg Prod.fst e)

variable (judge) in
/-- The comparisons of permuted candidates are a permutation. -/
theorem comparisons_perm {deletes' creates' : List Candidate} (hd : deletes'.Perm deletes)
    (hc : creates'.Perm creates) :
    (judge.comparisons deletes' creates').Perm (judge.comparisons deletes creates) :=
  (hd.flatMap fun _ _ => (hc.filter _).map _).map _

/-- Leaving out candidates leaves out the comparisons that touch them. -/
theorem comparisons_filter (judge : Judge) (deletes creates : List Candidate)
    (f g : Candidate → Bool) :
    judge.comparisons (deletes.filter f) (creates.filter g) =
      (judge.comparisons deletes creates).filter fun x => f x.delete && g x.create := by
  rw [comparisons, pairs_filter, comparisons, List.filter_map]
  rfl

/-! ### The comparisons that are found -/

theorem mem_comparisons_of_mem_found {x : Comparison} (h : x ∈ judge.found deletes creates) :
    x ∈ judge.comparisons deletes creates :=
  Comparison.mem_ranked.1 (mem_of_mem_chosen h)

theorem delete_mem_of_mem_found {x : Comparison} (h : x ∈ judge.found deletes creates) :
    x.delete ∈ deletes :=
  delete_mem_of_mem_comparisons (mem_comparisons_of_mem_found h)

theorem create_mem_of_mem_found {x : Comparison} (h : x ∈ judge.found deletes creates) :
    x.create ∈ creates :=
  create_mem_of_mem_comparisons (mem_comparisons_of_mem_found h)

/-- No two matches have a candidate in common. -/
theorem found_pairwise :
    (judge.found deletes creates).Pairwise fun a b => a.clashes b = false :=
  chosen_pairwise _ _

/-- A comparison is a match, or one of its candidates is in a match that is ranked before it. -/
theorem mem_found_or_blocked (hd : Unique deletes) (hc : Unique creates) {x : Comparison}
    (h : x ∈ judge.comparisons deletes creates) : x ∈ judge.found deletes creates ∨
      ∃ f ∈ judge.found deletes creates, Comparison.rank f x = .lt ∧ x.clashes f :=
  (chosen_blocks (judge.comparisons_distinct hd hc).ranked_pairwise_lt
    (Comparison.mem_ranked.2 h)).resolve_left (by simp)

/-- The order in which candidates are given does not matter for what is found. -/
theorem found_congr {deletes' creates' : List Candidate} (hd : Unique deletes)
    (hc : Unique creates) (hd' : deletes'.Perm deletes) (hc' : creates'.Perm creates) :
    judge.found deletes' creates' = judge.found deletes creates :=
  congrArg (chosen [])
    ((judge.comparisons_distinct hd hc).ranked_congr (judge.comparisons_perm hd' hc'))

end Judge

/-- A candidate of the type `t` with no attributes. -/
def bare (side : Side) (address : String) : Candidate := ⟨address, "t", "", side, .null, none⟩

/-- A judge of two deletes and two creates, of which the first belong together and the second do. -/
def crossing : Judge := fun d c =>
  ⟨[], match d.address == "t.d1", c.address == "t.c1" with
    | true, true   => 0
    | true, false  => 2
    | false, true  => 1
    | false, false => 0⟩

end ResourceMoves.Matching
