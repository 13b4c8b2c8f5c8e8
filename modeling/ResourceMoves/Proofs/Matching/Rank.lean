import Mathlib.Data.List.Nodup
import Mathlib.Data.List.Perm.Basic
import Mathlib.Data.Prod.Lex
import Mathlib.Data.String.Basic
import ResourceMoves.Matching.Comparison

/-!
# Matching — the order of rank

Comparisons are ranked by score, by size, and by the addresses of their two candidates, in the
lexicographic order of these four (`rank_eq_lt_iff`).  Two of the same rank have the same addresses
(`ends_eq_of_rank_eq`), so among comparisons of different addresses (`Distinct`) no tie is left, and
their ranked list is the only sorted one (`Distinct.eq_ranked`).  It depends on no order in which
they are given (`Distinct.ranked_congr`), it keeps its order when some are left out
(`Distinct.ranked_filter`), and it begins with the least (`Distinct.ranked_cons`).
-/

namespace ResourceMoves.Matching.Comparison

/-- The addresses of the two candidates. -/
def ends (c : Comparison) : String × String := (c.delete.address, c.create.address)

/-- No two of the comparisons have the same addresses. -/
def Distinct (cs : List Comparison) : Prop := (cs.map ends).Nodup

/-! ### Rank -/

instance : Std.TransCmp rank :=
  inferInstanceAs (Std.TransCmp (compareLex _ _))

theorem rank_eq_eq_iff {a b : Comparison} :
    rank a b = .eq ↔ a.score = b.score ∧ a.size = b.size ∧
      a.delete.address = b.delete.address ∧ a.create.address = b.create.address := by
  simp only [rank, compareLex_eq_eq, compareOn, Std.LawfulEqOrd.compare_eq_iff_eq]

/-- What comparisons are ranked by. -/
def key (c : Comparison) : ℕ ×ₗ ℕ ×ₗ String ×ₗ String :=
  toLex (c.score, toLex (c.size, toLex (c.delete.address, c.create.address)))

/-- Comparisons are ranked lexicographically. -/
theorem rank_eq_lt_iff {a b : Comparison} : rank a b = .lt ↔ a.key < b.key := by
  simp only [rank, compareLex, compareOn, Ordering.then_eq_lt, compare_lt_iff_lt, compare_eq_iff_eq,
    key, Prod.Lex.toLex_lt_toLex]

/-- Two comparisons of the same rank have the same addresses. -/
theorem ends_eq_of_rank_eq {a b : Comparison} (h : rank a b = .eq) : a.ends = b.ends := by
  obtain ⟨-, -, hd, hc⟩ := rank_eq_eq_iff.1 h
  exact Prod.ext hd hc

/-! ### Different addresses -/

variable {cs ds : List Comparison} {c : Comparison}

theorem Distinct.sublist (h : Distinct cs) (hs : ds.Sublist cs) : Distinct ds :=
  List.Nodup.sublist (hs.map ends) h

/-- Of comparisons of different addresses, two that are ranked both ways are one. -/
theorem Distinct.antisymm (h : Distinct cs) {a b : Comparison} (ha : a ∈ cs) (hb : b ∈ cs)
    (hab : (rank a b).isLE) (hba : (rank b a).isLE) : a = b :=
  List.inj_on_of_nodup_map h ha hb (ends_eq_of_rank_eq (Std.OrientedCmp.isLE_antisymm hab hba))

/-! ### The ranked list -/

theorem ranked_perm (cs : List Comparison) : (ranked cs).Perm cs :=
  List.mergeSort_perm cs _

@[simp] theorem ranked_nil : ranked [] = [] :=
  List.mergeSort_nil

@[simp] theorem mem_ranked : c ∈ ranked cs ↔ c ∈ cs :=
  (ranked_perm cs).mem_iff

theorem ranked_pairwise (cs : List Comparison) :
    (ranked cs).Pairwise fun a b => (rank a b).isLE := by
  refine List.pairwise_mergeSort (fun a b c => Std.TransCmp.isLE_trans) (fun a b => ?_) cs
  have hswap : rank b a = (rank a b).swap := Std.OrientedCmp.eq_swap
  rw [hswap]
  cases rank a b <;> rfl

/-- Of comparisons of different addresses no two rank alike. -/
theorem Distinct.ranked_pairwise_lt (h : Distinct cs) :
    (ranked cs).Pairwise fun a b => rank a b = .lt := by
  have hdistinct : Distinct (ranked cs) := ((ranked_perm cs).map ends).nodup_iff.2 h
  refine (ranked_pairwise cs).imp₂ (fun a b hle hne => ?_) (List.pairwise_map.1 hdistinct)
  cases hab : rank a b with
  | lt => rfl
  | eq => exact absurd (ends_eq_of_rank_eq hab) hne
  | gt => rw [hab] at hle; cases hle

/-- **The ranked list is the only sorted one.** -/
theorem Distinct.eq_ranked (h : Distinct cs) (hp : ds.Perm cs)
    (hs : ds.Pairwise fun a b => (rank a b).isLE) : ds = ranked cs := by
  refine List.Perm.eq_of_pairwise (fun a b ha hb => ?_) hs (ranked_pairwise cs)
    (hp.trans (ranked_perm cs).symm)
  exact h.antisymm (hp.mem_iff.1 ha) (mem_ranked.1 hb)

/-- The order in which comparisons are given does not matter. -/
theorem Distinct.ranked_congr (h : Distinct cs) (hp : ds.Perm cs) : ranked ds = ranked cs :=
  h.eq_ranked ((ranked_perm ds).trans hp) (ranked_pairwise ds)

/-- Comparisons may be left out before or after ranking. -/
theorem Distinct.ranked_filter (h : Distinct cs) (p : Comparison → Bool) :
    (ranked cs).filter p = ranked (cs.filter p) :=
  Distinct.eq_ranked (h.sublist List.filter_sublist) ((ranked_perm cs).filter p)
    ((ranked_pairwise cs).filter p)

/-- A comparison that is ranked before all others comes first. -/
theorem Distinct.ranked_cons (h : Distinct (c :: cs)) (least : ∀ x ∈ cs, (rank c x).isLE) :
    ranked (c :: cs) = c :: ranked cs := by
  refine (h.eq_ranked ((ranked_perm cs).cons c) (List.pairwise_cons.2 ⟨fun x hx => ?_, ?_⟩)).symm
  · exact least x (mem_ranked.1 hx)
  · exact ranked_pairwise cs

end ResourceMoves.Matching.Comparison
