import ResourceMoves.Proofs.Attribute.Descent

/-!
# Attribute trees — where two trees disagree

Two trees come apart at a path when all nodes above it are in both of them and alike, one of them at
least has a node there, and what they have there is neither compared further nor agrees (`Apart`).
This is said of the path alone, by looking up its prefixes.

**The differences are just these** (`diff_exact`): there is one at each path at which the trees come
apart and at no other, with what the two trees have there, in increasing order of the paths.

Both sides are followed down the path: trees come apart at `s :: p` when their roots are alike and
their children at `s` come apart at `p` (`apart_cons_iff`), and a difference at `s :: p` is one of
the children, seen from their parents (`mem_differences_cons_iff`).  A tree may be missing on one side,
so all of this is about nodes that there may not be.
-/

namespace ResourceMoves.Attribute.Tree

/-- The node at the end of a path from a node, if there is one. -/
def at? (t : Option Tree) (p : Path) : Option Tree := t.bind (lookup? · p)

/-- The nodes `a` and `b` come apart at a path: above it they have nodes that are alike; there one
of them has a node at least, and if both do these are neither alike nor agree. -/
structure Apart (a b : Option Tree) (p : Path) : Prop where
  above  : ∀ q, q <+: p → q ≠ p → ∃ x y, at? a q = some x ∧ at? b q = some y ∧ Alike x y
  here   : (at? a p).isSome ∨ (at? b p).isSome
  differ : ∀ x y, at? a p = some x → at? b p = some y → ¬ Alike x y ∧ agree x y = false

variable {a b : Option Tree} {x y : Tree} {s : Segment} {p : Path} {d : Difference}

@[simp] theorem at?_nil (t : Option Tree) : at? t [] = t := by
  cases t <;> rfl

/-! ### Coming apart, step by step -/

theorem apart_nil_iff : Apart a b [] ↔ (a.isSome ∨ b.isSome) ∧
    ∀ x y, a = some x → b = some y → ¬ Alike x y ∧ agree x y = false := by
  constructor
  · intro h
    exact ⟨by simpa using h.here, by simpa using h.differ⟩
  · rintro ⟨hhere, hdiffer⟩
    exact ⟨fun q hq hne => absurd (List.prefix_nil.1 hq) hne, by simpa using hhere,
      by simpa using hdiffer⟩

theorem apart_cons_iff : Apart a b (s :: p) ↔
    ∃ x y, a = some x ∧ b = some y ∧ Alike x y ∧ Apart (x.child? s) (y.child? s) p := by
  constructor
  · rintro ⟨habove, hhere, hdiffer⟩
    obtain ⟨x, y, hx, hy, halike⟩ := habove [] List.nil_prefix (List.cons_ne_nil s p).symm
    rw [at?_nil] at hx hy
    subst hx hy
    refine ⟨x, y, rfl, rfl, halike, fun q hq hne => ?_, hhere, hdiffer⟩
    exact habove (s :: q) (List.cons_prefix_cons.2 ⟨rfl, hq⟩) fun e => hne (List.cons.inj e).2
  · rintro ⟨x, y, rfl, rfl, halike, habove, hhere, hdiffer⟩
    refine ⟨fun q hq hne => ?_, hhere, hdiffer⟩
    cases q with
    | nil => exact ⟨x, y, rfl, rfl, halike⟩
    | cons s' q =>
        obtain ⟨rfl, hqp⟩ := List.cons_prefix_cons.1 hq
        exact habove q hqp fun e => hne (e ▸ rfl)

/-! ### Differences, step by step -/

theorem differences_none_none : differences none none none = [] := by
  simp [differences]

/-- All that comparing two nodes can give: the differences of the children of two that are alike,
the two as a whole where they come apart, or nothing. -/
theorem differences_cases (a b : Option Tree) :
    (∃ x y segments, a = some x ∧ b = some y ∧ branches? x y = some segments ∧
      differences a b none = segments.flatMap fun s =>
        (differences (x.child? s) (y.child? s) none).map (·.under s)) ∨
    (∀ x y, a = some x → b = some y → ¬ Alike x y) ∧
      (Apart a b [] ∧ differences a b none = [{ path := [], before := a, after := b }] ∨
        ¬ Apart a b [] ∧ differences a b none = []) := by
  match a, b with
  | none, none =>
      exact .inr ⟨by simp, .inr ⟨by simp [apart_nil_iff], differences_none_none⟩⟩
  | some x, none =>
      exact .inr ⟨by simp, .inl ⟨by simp [apart_nil_iff], by simp [differences, hides]⟩⟩
  | none, some y =>
      exact .inr ⟨by simp, .inl ⟨by simp [apart_nil_iff], by simp [differences, hides]⟩⟩
  | some x, some y =>
      rw [differences]
      cases hsegments : branches? x y with
      | some segments => exact .inl ⟨x, y, segments, rfl, rfl, hsegments, rfl⟩
      | none =>
          have hnot : ¬ Alike x y := fun h => by simp [alike_iff, hsegments] at h
          refine .inr ⟨by simpa using hnot, ?_⟩
          cases hagree : agree x y with
          | true => exact .inr ⟨by simp [apart_nil_iff, hagree], rfl⟩
          | false => exact .inl ⟨by simp [apart_nil_iff, hnot, hagree], rfl⟩

theorem mem_differences_nil_iff {before after : Option Tree} {ignored : Bool} :
    ⟨[], before, after, ignored⟩ ∈ differences a b none ↔
      Apart a b [] ∧ before = a ∧ after = b ∧ ignored = false := by
  obtain ⟨x, y, segments, rfl, rfl, hsegments, h⟩ | ⟨-, ⟨hapart, h⟩ | ⟨hnot, h⟩⟩ :=
    differences_cases a b
  · have halike := alike_iff.2 ⟨segments, hsegments⟩
    simp [h, Difference.under, apart_nil_iff, halike]
  · simp [h, hapart]
  · simp [h, hnot]

theorem mem_differences_cons_iff {before after : Option Tree} {ignored : Bool} :
    ⟨s :: p, before, after, ignored⟩ ∈ differences a b none ↔
      ∃ x y, a = some x ∧ b = some y ∧ Alike x y ∧
        ⟨p, before, after, ignored⟩ ∈ differences (x.child? s) (y.child? s) none := by
  obtain ⟨x, y, segments, rfl, rfl, hsegments, h⟩ | ⟨hnot, hroot⟩ := differences_cases a b
  · have halike := alike_iff.2 ⟨segments, hsegments⟩
    simp only [h, List.mem_flatMap, List.mem_map]
    constructor
    · rintro ⟨s', -, ⟨p', b', a', i'⟩, hd, e⟩
      cases e
      exact ⟨x, y, rfl, rfl, halike, hd⟩
    · rintro ⟨_, _, ⟨⟩, ⟨⟩, -, hd⟩
      refine ⟨s, (mem_branches hsegments).2 ?_, _, hd, rfl⟩
      -- where neither tree has a child there is no difference
      by_contra hnone
      rw [not_or, Option.not_isSome_iff_eq_none, Option.not_isSome_iff_eq_none] at hnone
      rw [hnone.1, hnone.2, differences_none_none] at hd
      cases hd
  · have hempty : ∀ d ∈ differences a b none, d.path = [] := by
      rcases hroot with ⟨-, h⟩ | ⟨-, h⟩ <;> simp [h]
    constructor
    · intro hd
      cases hempty _ hd
    · rintro ⟨x, y, hx, hy, halike, -⟩
      exact absurd halike (hnot x y hx hy)

/-- **Where the differences are**, and what they say. -/
theorem mem_differences_iff {before after : Option Tree} {ignored : Bool} :
    ⟨p, before, after, ignored⟩ ∈ differences a b none ↔
      Apart a b p ∧ before = at? a p ∧ after = at? b p ∧ ignored = false := by
  induction p generalizing a b with
  | nil => simp [mem_differences_nil_iff]
  | cons s p ih =>
      rw [mem_differences_cons_iff, apart_cons_iff]
      constructor
      · rintro ⟨x, y, rfl, rfl, halike, hd⟩
        obtain ⟨hapart, hsides⟩ := ih.1 hd
        exact ⟨⟨x, y, rfl, rfl, halike, hapart⟩, hsides⟩
      · rintro ⟨⟨x, y, rfl, rfl, halike, hapart⟩, hsides⟩
        exact ⟨x, y, rfl, rfl, halike, ih.2 ⟨hapart, hsides⟩⟩

/-! ### Two trees -/

/-- Of the elements that differ pairwise in `f`, one at most has a given value of it. -/
theorem filter_eq_singleton {α β : Type} [DecidableEq β] {l : List α} {f : α → β} {a : α}
    (h : l.Pairwise fun x y => f x ≠ f y) (ha : a ∈ l) :
    (l.filter fun x => f x = f a) = [a] := by
  induction l with
  | nil => cases ha
  | cons x l ih =>
      obtain ⟨hx, hl⟩ := List.pairwise_cons.1 h
      rcases List.mem_cons.1 ha with rfl | ha
      · rw [List.filter_cons_of_pos (by simp), List.filter_eq_nil_iff.2]
        exact fun y hy => by simpa using (hx y hy).symm
      · rw [List.filter_cons_of_neg (by simpa using hx a ha), ih hl ha]

/-- **The differences are the disagreements.**  Without a mask there is a difference at a path just
when the trees come apart there, no second one, and it has what the two trees have there.  The
differences are in lexicographic order of their paths, and no path is a prefix of another. -/
theorem diff_exact (a b : Tree) :
    (∀ p, (∃ d ∈ a.diff b none, d.path = p) ↔ Apart (some a) (some b) p) ∧
    (∀ p, Apart (some a) (some b) p → ((a.diff b none).filter fun d => d.path = p) =
      [{ path := p, before := a.lookup? p, after := b.lookup? p, ignored := false }]) ∧
    (a.diff b none).Pairwise fun d e =>
      List.Lex Segment.Less d.path e.path ∧ ¬ d.path <+: e.path ∧ ¬ e.path <+: d.path := by
  have hparts := differences_pairwise (some a) (some b) none
  have hmem {p : Path} (h : Apart (some a) (some b) p) :
      ⟨p, a.lookup? p, b.lookup? p, false⟩ ∈ a.diff b none :=
    mem_differences_iff.2 ⟨h, rfl, rfl, rfl⟩
  refine ⟨fun p => ⟨?_, fun h => ⟨_, hmem h, rfl⟩⟩, fun p h => ?_, hparts.imp fun h => ?_⟩
  · rintro ⟨⟨p, before, after, ignored⟩, hd, rfl⟩
    exact (mem_differences_iff.1 hd).1
  · refine filter_eq_singleton (hparts.imp fun h e => ?_) (hmem h)
    exact (h.not_prefix Segment.not_less_self).1 (e ▸ List.prefix_rfl)
  · exact ⟨h.lex, h.not_prefix Segment.not_less_self⟩

/-- Of two lists, the tail of the longer one is reported at its index. -/
theorem diff_exact_list_tail :
    Apart (some (.map [("ports", .list [.leaf (.text "80"), .leaf (.text "443")])]))
        (some (.map [("ports", .list [.leaf (.text "80")])])) [.key "ports", .index 1] ∧
      (((Tree.map [("ports", .list [.leaf (.text "80"), .leaf (.text "443")])]).diff
          (.map [("ports", .list [.leaf (.text "80")])]) none).filter
            fun d => d.path = [.key "ports", .index 1]) =
        [⟨[.key "ports", .index 1], some (.leaf (.text "443")), none, false⟩] := by
  have h : Apart (some (.map [("ports", .list [.leaf (.text "80"), .leaf (.text "443")])]))
      (some (.map [("ports", .list [.leaf (.text "80")])])) [.key "ports", .index 1] :=
    apart_cons_iff.2 ⟨_, _, rfl, rfl, .map _ _, apart_cons_iff.2 ⟨_, _, rfl, rfl, .list _ _,
      apart_nil_iff.2 ⟨.inl rfl, by simp [child?]⟩⟩⟩
  exact ⟨h, (diff_exact _ _).2.1 _ h⟩

end ResourceMoves.Attribute.Tree
