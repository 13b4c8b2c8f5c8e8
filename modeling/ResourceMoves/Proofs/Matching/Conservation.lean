import ResourceMoves.Proofs.Matching.Solve

/-!
# Matching — every candidate is accounted for

Solving neither loses a candidate nor uses one twice, and it leaves none over that could be matched
(`solve_accounts`).  On each side the matched candidates and those that are left are the given ones
(`AccountsFor`); of each type there are as many matches as the side with fewer candidates of it
allows; and the comparisons are those of all pairs of one type, in the order in which their
candidates are given (`Earlier`).

That a side is accounted for needs only that its matched candidates are among the given ones and
are not repeated (`accountsFor_unmatched`).  The count is due to the greedy pass taking all it can:
two candidates of one type that are both left would have been compared, and their comparison is a
match or blocked by one (`type_ne_of_unmatched`).
-/

namespace ResourceMoves.Matching

open ResourceMoves.Plan (Candidate)

/-- The matched candidates of one side and those that are left are the candidates of that side, each
once, and what is left is in the given order. -/
structure AccountsFor (matched left candidates : List Candidate) : Prop where
  perm    : (matched ++ left).Perm candidates
  sublist : left.Sublist candidates

/-- The place of a candidate among others, by its address. -/
def position (candidates : List Candidate) (c : Candidate) : Nat :=
  (candidates.map (·.address)).idxOf c.address

/-- The delete of `x` stands before that of `y`, or they have one delete and the create of `x`
stands before that of `y`. -/
def Earlier (deletes creates : List Candidate) (x y : Comparison) : Prop :=
  position deletes x.delete < position deletes y.delete ∨
    position deletes x.delete = position deletes y.delete ∧
      position creates x.create < position creates y.create

variable {judge : Judge} {deletes creates candidates : List Candidate}

/-! ### Matched and left -/

theorem mem_unmatched {side : Comparison → Candidate} {found : List Comparison} {c : Candidate} :
    c ∈ unmatched side found candidates ↔
      c ∈ candidates ∧ ∀ x ∈ found, (side x).address ≠ c.address := by
  simp [unmatched]

/-- A side is accounted for when its matched candidates are among the given ones, none twice. -/
theorem accountsFor_unmatched {side : Comparison → Candidate} {found : List Comparison}
    (h : Unique candidates) (hmem : ∀ x ∈ found, side x ∈ candidates)
    (hnodup : Unique (found.map side)) :
    AccountsFor (found.map side) (unmatched side found candidates) candidates := by
  refine ⟨?_, List.filter_sublist⟩
  have hmatched : (found.map side).Perm
      (candidates.filter fun c => found.any fun x => (side x).address == c.address) := by
    refine (List.perm_ext_iff_of_nodup (.of_map _ hnodup) ((List.Nodup.of_map _ h).filter _)).2
      fun c => ?_
    simp only [List.mem_map, List.mem_filter, List.any_eq_true, beq_iff_eq]
    constructor
    · rintro ⟨x, hx, rfl⟩
      exact ⟨hmem x hx, x, hx, rfl⟩
    · rintro ⟨hc, x, hx, e⟩
      exact ⟨x, hx, h.eq_of_address_eq (hmem x hx) hc e⟩
  exact (hmatched.append_right _).trans (List.filter_append_perm _ _)

variable (judge creates) in
theorem accountsFor_deletes (h : Unique deletes) :
    AccountsFor ((judge.found deletes creates).map (·.delete))
      (unmatched (·.delete) (judge.found deletes creates) deletes) deletes := by
  refine accountsFor_unmatched h (fun x hx => Judge.delete_mem_of_mem_found hx) ?_
  rw [Unique, List.map_map, List.Nodup, List.pairwise_map]
  exact Judge.found_pairwise.imp fun h => (Comparison.clashes_eq_false_iff.1 h).1

variable (judge deletes) in
theorem accountsFor_creates (h : Unique creates) :
    AccountsFor ((judge.found deletes creates).map (·.create))
      (unmatched (·.create) (judge.found deletes creates) creates) creates := by
  refine accountsFor_unmatched h (fun x hx => Judge.create_mem_of_mem_found hx) ?_
  rw [Unique, List.map_map, List.Nodup, List.pairwise_map]
  exact Judge.found_pairwise.imp fun h => (Comparison.clashes_eq_false_iff.1 h).2

/-! ### As many matches as there can be -/

/-- A delete and a create that are both left are of different types. -/
theorem type_ne_of_unmatched (hud : Unique deletes) (huc : Unique creates) {d c : Candidate}
    (hd : d ∈ unmatched (·.delete) (judge.found deletes creates) deletes)
    (hc : c ∈ unmatched (·.create) (judge.found deletes creates) creates) : d.type ≠ c.type := by
  obtain ⟨hd, hdfree⟩ := mem_unmatched.1 hd
  obtain ⟨hc, hcfree⟩ := mem_unmatched.1 hc
  intro ht
  have hcompared := judge.compare_mem_comparisons hd hc ht
  rcases Judge.mem_found_or_blocked hud huc hcompared with hfound | ⟨f, hf, -, hclash⟩
  · exact hdfree _ hfound rfl
  · rcases Bool.or_eq_true_iff.1 hclash with e | e
    · exact hdfree f hf (beq_iff_eq.1 e).symm
    · exact hcfree f hf (beq_iff_eq.1 e).symm

/-- The two candidates of a match are of one type. -/
theorem type_eq_of_mem_found {x : Comparison} (h : x ∈ judge.found deletes creates) :
    x.delete.type = x.create.type := by
  obtain ⟨d, -, c, -, ht, rfl⟩ := Judge.mem_comparisons.1 (Judge.mem_comparisons_of_mem_found h)
  exact ht

/-- Of each type there are as many matches as the fewer candidates of it on one side. -/
theorem countP_found_eq_min (hud : Unique deletes) (huc : Unique creates) (t : String) :
    ((judge.found deletes creates).countP fun x => x.delete.type == t) =
      min (deletes.countP fun d => d.type == t) (creates.countP fun c => c.type == t) := by
  have hd := (accountsFor_deletes judge creates hud).perm.countP_eq fun d => d.type == t
  have hc := (accountsFor_creates judge deletes huc).perm.countP_eq fun c => c.type == t
  rw [List.countP_append, List.countP_map, Function.comp_def] at hd hc
  have htypes : ((judge.found deletes creates).countP fun x => x.create.type == t) =
      (judge.found deletes creates).countP fun x => x.delete.type == t :=
    List.countP_congr fun x hx => by rw [type_eq_of_mem_found hx]
  -- on one side at least nothing of the type is left
  have hleft : ((unmatched (·.delete) (judge.found deletes creates) deletes).countP
        fun d => d.type == t) = 0 ∨
      ((unmatched (·.create) (judge.found deletes creates) creates).countP
        fun c => c.type == t) = 0 := by
    simp only [List.countP_eq_zero, beq_iff_eq]
    by_cases hex : ∃ d ∈ unmatched (·.delete) (judge.found deletes creates) deletes, d.type = t
    · obtain ⟨d, hdleft, hdt⟩ := hex
      exact .inr fun c hcleft hct =>
        type_ne_of_unmatched hud huc hdleft hcleft (hdt.trans hct.symm)
    · exact .inl fun d hdleft hdt => hex ⟨d, hdleft, hdt⟩
  omega

/-! ### The order of the comparisons -/

/-- Candidates of unique addresses are in the order of their places. -/
theorem Unique.pairwise_position (h : Unique candidates) :
    candidates.Pairwise fun a b => position candidates a < position candidates b := by
  have hposition (i : Nat) (hi : i < candidates.length) : position candidates candidates[i] = i := by
    have h := h.idxOf_getElem i (by simpa using hi)
    rwa [List.getElem_map] at h
  rw [List.pairwise_iff_getElem]
  intro i j hi hj hij
  rwa [hposition i hi, hposition j hj]

/-- The comparisons follow the places of their candidates. -/
theorem Judge.comparisons_pairwise_earlier (judge : Judge) (hd : Unique deletes)
    (hc : Unique creates) :
    (judge.comparisons deletes creates).Pairwise (Earlier deletes creates) := by
  rw [comparisons_eq_flatMap, List.pairwise_flatMap]
  refine ⟨fun d _ => ?_, hd.pairwise_position.imp fun hlt x hx y hy => ?_⟩
  · rw [List.pairwise_map]
    exact (hc.pairwise_position.filter _).imp fun hlt => .inr ⟨rfl, hlt⟩
  · obtain ⟨c, -, rfl⟩ := List.mem_map.1 hx
    obtain ⟨c', -, rfl⟩ := List.mem_map.1 hy
    exact .inl hlt

/-! ### Solving -/

/-- **Every candidate is accounted for.**  Solving candidates of unique addresses, with nothing to
stop it, succeeds.  On each side its matches and what it leaves over are the candidates, each once
and what is left in the given order; of each type there are as many matches as there can be; and it
compares each two candidates of one type, once and in order. -/
theorem solve_accounts (hd : Unique deletes) (hc : Unique creates) :
    ∃ m, solve .never judge deletes creates = .ok m ∧
      AccountsFor (m.found.map (·.delete)) m.unmatchedDeletes deletes ∧
      AccountsFor (m.found.map (·.create)) m.unmatchedCreates creates ∧
      (∀ x ∈ m.found, x.delete.type = x.create.type) ∧
      (∀ t, (m.found.countP fun x => x.delete.type == t) =
        min (deletes.countP fun d => d.type == t) (creates.countP fun c => c.type == t)) ∧
      (∀ x, x ∈ m.comparisons ↔
        ∃ d ∈ deletes, ∃ c ∈ creates, d.type = c.type ∧ judge.compare d c = x) ∧
      m.comparisons.Pairwise (Earlier deletes creates) := by
  refine ⟨judge.matching deletes creates, solve_never hd hc, accountsFor_deletes judge creates hd,
    accountsFor_creates judge deletes hc, fun x hx => type_eq_of_mem_found hx,
    countP_found_eq_min hd hc, fun x => Judge.mem_comparisons,
    judge.comparisons_pairwise_earlier hd hc⟩

/-- Of two deletes and one create, one of each is matched and a delete is left. -/
theorem solve_accounts_one_create :
    Unique [bare .delete "t.d2", bare .delete "t.d1"] ∧ Unique [bare .create "t.c1"] ∧
      ∃ m, solve .never crossing [bare .delete "t.d2", bare .delete "t.d1"]
          [bare .create "t.c1"] = .ok m ∧
        AccountsFor (m.found.map (·.delete)) m.unmatchedDeletes
          [bare .delete "t.d2", bare .delete "t.d1"] ∧
        (m.found.countP fun x => x.delete.type == "t") = 1 ∧
        m.unmatchedCreates = [] := by
  have hd : Unique [bare .delete "t.d2", bare .delete "t.d1"] := by decide
  have hc : Unique [bare .create "t.c1"] := by decide
  obtain ⟨m, hm, hdeletes, hcreates, -, hcount, -⟩ := @solve_accounts crossing _ _ hd hc
  refine ⟨hd, hc, m, hm, hdeletes, hcount "t", ?_⟩
  have hmatched : 0 < m.found.length := (hcount "t").symm.trans_le List.countP_le_length
  have hlength := hcreates.perm.length_eq
  simp only [List.length_append, List.length_map, List.length_cons, List.length_nil] at hlength
  exact List.eq_nil_of_length_eq_zero (by omega)

end ResourceMoves.Matching
