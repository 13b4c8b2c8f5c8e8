import ResourceMoves.Proofs.Attribute.Disagreement
import ResourceMoves.Proofs.Plan.Candidates

/-!
# Attribute trees — what a mask hides

A mask hides a path when it has the leaf `true` there or at a node above (`Hidden`).  Two trees are
followed down together with the mask, which may have any shape beside them, and the descent ends
where the mask says `true`.  **The mask is a filter** (`diff_masked`): what is left are the
differences without a mask whose paths are not hidden, in their order.

So a mask counts only by the places where it is `true`.  A leaf of another kind hides nothing, which
is why extraction may drop it, and a mask with more entries turned to `true` (`turned`) hides all
that it hid before.
-/

namespace ResourceMoves.Attribute.Tree

open ResourceMoves.Matching (judgeBy)
open ResourceMoves.Plan (usefulMask?)

variable {a b m : Tree} {mask mask' : Option Tree} {s : Segment} {p q : Path}

/-- The mask is `true` at the path or at a node above it. -/
def Hidden (mask : Option Tree) (p : Path) : Prop :=
  ∃ q, q <+: p ∧ at? mask q = some (.leaf (.bool true))

/-! ### Hidden paths, step by step -/

theorem isTrue_iff {t : Tree} : t.isTrue ↔ t = .leaf (.bool true) := by
  refine ⟨fun h => ?_, fun h => h ▸ rfl⟩
  unfold isTrue at h
  split at h
  · rfl
  · cases h

theorem hides_iff : hides mask ↔ mask = some (.leaf (.bool true)) := by
  cases mask with
  | none => simp [hides]
  | some t => simp [hides, isTrue_iff]

theorem at?_cons (t : Option Tree) (s : Segment) (p : Path) :
    at? t (s :: p) = at? (t.bind (·.child? s)) p := by
  cases t <;> rfl

theorem Hidden.of_hides (h : hides mask) (p : Path) : Hidden mask p :=
  ⟨[], List.nil_prefix, (at?_nil mask).trans (hides_iff.1 h)⟩

theorem hidden_nil_iff : Hidden mask [] ↔ hides mask := by
  constructor
  · rintro ⟨q, hq, htrue⟩
    rw [List.prefix_nil.1 hq, at?_nil] at htrue
    exact hides_iff.2 htrue
  · intro h
    exact .of_hides h []

theorem hidden_cons_iff :
    Hidden mask (s :: p) ↔ hides mask ∨ Hidden (mask.bind (·.child? s)) p := by
  constructor
  · rintro ⟨q, hq, htrue⟩
    cases q with
    | nil => exact .inl (hides_iff.2 ((at?_nil mask).symm.trans htrue))
    | cons s' q =>
        obtain ⟨rfl, hqp⟩ := List.cons_prefix_cons.1 hq
        exact .inr ⟨q, hqp, (at?_cons mask s' q).symm.trans htrue⟩
  · rintro (h | ⟨q, hq, htrue⟩)
    · exact .of_hides h _
    · exact ⟨s :: q, List.cons_prefix_cons.2 ⟨rfl, hq⟩, (at?_cons mask s q).trans htrue⟩

instance decidableHidden : (mask : Option Tree) → (p : Path) → Decidable (Hidden mask p)
  | mask, [] => decidable_of_iff (hides mask = true) hidden_nil_iff.symm
  | mask, s :: p =>
      have := decidableHidden (mask.bind (·.child? s)) p
      decidable_of_iff (hides mask = true ∨ Hidden (mask.bind (·.child? s)) p) hidden_cons_iff.symm

/-! ### The filter -/

/-- A difference of the roots stays, if the mask does not hide all. -/
theorem filter_root (h : ¬ hides mask) {d : Difference} (hd : d.path = []) :
    ([d].filter fun d => ¬ Hidden mask d.path) = [d] := by
  refine List.filter_cons_of_pos ?_
  rw [hd, decide_eq_true_eq, hidden_nil_iff]
  exact h

/-- **The differences under a mask** are those without one whose paths it does not hide. -/
theorem differences_eq_filter (before after mask : Option Tree) :
    differences before after mask =
      (differences before after none).filter fun d => ¬ Hidden mask d.path := by
  fun_induction differences before after mask with
  | case1 before after mask hmask =>
      refine (List.filter_eq_nil_iff.2 fun d _ => ?_).symm
      simp [Hidden.of_hides hmask d.path]
  | case2 mask hmask => simp [differences_none_none]
  | case3 mask hmask x y segments hsegments ih =>
      -- below alike nodes the mask hides what its child hides, as it is not `true` itself
      have hunder (s : Segment) (d : Difference) :
          Hidden mask (d.under s).path ↔ Hidden (mask.bind (·.child? s)) d.path := by
        simp [Difference.under, hidden_cons_iff, hmask]
      have hplain : differences (some x) (some y) none = segments.flatMap fun s =>
          (differences (x.child? s) (y.child? s) none).map (·.under s) := by
        rw [differences, hsegments]
        rfl
      rw [hplain, List.filter_flatMap]
      refine List.flatMap_congr fun s _ => ?_
      rw [ih s, List.filter_map]
      simp only [Function.comp_def, hunder]
  | case4 mask hmask x y hsegments hagree => simp [differences, hides, hsegments, hagree]
  | case5 mask hmask x y hsegments hagree =>
      have hplain : differences (some x) (some y) none =
          [{ path := [], before := some x, after := some y }] := by
        simp [differences, hides, hsegments, hagree]
      rw [hplain, filter_root hmask rfl]
  | case6 mask hmask before after hnone hboth =>
      have hplain : differences before after none =
          [{ path := [], before := before, after := after }] := by
        cases before with
        | none =>
            cases after with
            | none => exact (hnone rfl rfl).elim
            | some y => simp [differences, hides]
        | some x =>
            cases after with
            | none => simp [differences, hides]
            | some y => exact (hboth x y rfl rfl).elim
      rw [hplain, filter_root hmask rfl]

/-- A mask that hides more leaves fewer differences, in the same order. -/
theorem diff_sublist_of_hidden (h : ∀ p, Hidden mask p → Hidden mask' p) (a b : Tree) :
    (a.diff b mask').Sublist (a.diff b mask) := by
  rw [diff, diff, differences_eq_filter _ _ mask', differences_eq_filter _ _ mask]
  refine List.monotone_filter_right _ fun d hd => ?_
  rw [decide_eq_true_eq] at hd ⊢
  exact fun hp => hd (h _ hp)

/-- Masks that hide the same leave the same differences. -/
theorem diff_congr_of_hidden (h : ∀ p, Hidden mask p ↔ Hidden mask' p) (a b : Tree) :
    a.diff b mask = a.diff b mask' := by
  rw [diff, diff, differences_eq_filter _ _ mask, differences_eq_filter _ _ mask']
  simp only [h]

/-! ### Masks that are leaves -/

/-- Below a leaf there is nothing, so it hides everything or nothing. -/
theorem hidden_leaf_iff {c : Scalar} : Hidden (some (.leaf c)) p ↔ c = .bool true := by
  constructor
  · rintro ⟨q, -, htrue⟩
    cases q with
    | nil => simpa using htrue
    | cons s q => simp [at?, lookup?, child?] at htrue
  · rintro rfl
    exact .of_hides rfl p

theorem not_hidden_none : ¬ Hidden none p := by
  rintro ⟨q, -, htrue⟩
  cases htrue

/-- A leaf other than `true` is no mask at all. -/
theorem diff_leaf {c : Scalar} (hc : c ≠ .bool true) (a b : Tree) :
    a.diff b (some (.leaf c)) = a.diff b none :=
  diff_congr_of_hidden (fun p => by simp [hidden_leaf_iff, hc, not_hidden_none]) a b

/-- A mask that extraction drops hides nothing. -/
theorem diff_usefulMask? (v : Option Json.Value) (a b : Tree) :
    a.diff b (usefulMask? v) = a.diff b (v.map .ofJson) := by
  cases v with
  | none => rfl
  | some v =>
      rw [usefulMask?, Option.map_some, Option.filter_some]
      split
      case isTrue => rfl
      case isFalse h =>
        cases ht : ofJson v with
        | leaf c =>
            refine (diff_leaf (fun hc => ?_) a b).symm
            simp [ht, hc, isLeaf, isTrue] at h
        | list items => simp [ht, isLeaf] at h
        | map entries => simp [ht, isLeaf] at h

/-! ### Turning entries to `true` -/

/-- The mask with the entry at a path, if it has one, turned to `true`. -/
def turned : Tree → Path → Tree
  | _,            []           => .leaf (.bool true)
  | .map entries, .key k :: p  =>
      .map (entries.map fun e => if e.1 = k then (k, e.2.turned p) else e)
  | .list items,  .index i :: p => .list (items.modify i (·.turned p))
  | t,            _ :: _        => t

theorem turned_leaf (c : Scalar) (s : Segment) (p : Path) : (leaf c).turned (s :: p) = leaf c := by
  simp [turned]

theorem find?_map_turned (k l : String) (p : Path) (entries : List (String × Tree)) :
    Keyed.find? l (entries.map fun e => if e.1 = k then (k, e.2.turned p) else e) =
      if l = k then (Keyed.find? k entries).map (·.turned p) else Keyed.find? l entries := by
  induction entries with
  | nil => simp [Keyed.find?]
  | cons e entries ih =>
      obtain ⟨k', t⟩ := e
      by_cases hk : k' = k
      · subst hk
        by_cases hl : l = k'
        · simp [Keyed.find?, hl]
        · simp [Keyed.find?, Ne.symm hl, hl, ih]
      · by_cases hl : k' = l
        · subst hl
          simp [Keyed.find?, hk]
        · simp [Keyed.find?, hk, hl, ih]

/-- Only what is below the first step is changed. -/
theorem child?_turned (m : Tree) (s s' : Segment) (p : Path) :
    (m.turned (s :: p)).child? s' =
      if s' = s then (m.child? s).map (·.turned p) else m.child? s' := by
  cases m with
  | leaf c => simp [turned, child?]
  | list items =>
      cases s with
      | key k => cases s' <;> simp [turned, child?]
      | index i =>
          cases s' with
          | key l => simp [turned, child?]
          | index j =>
              by_cases h : j = i
              · simp [turned, child?, h]
              · simp [turned, child?, h, Ne.symm h]
  | map entries =>
      cases s with
      | index i => cases s' <;> simp [turned, child?]
      | key k =>
          cases s' with
          | index j => simp [turned, child?]
          | key l => simp [turned, child?, find?_map_turned]

/-- What a mask hides it hides with an entry turned to `true` as well. -/
theorem Hidden.turned (h : Hidden (some m) p) (q : Path) : Hidden (some (m.turned q)) p := by
  induction q generalizing m p with
  | nil => exact .of_hides rfl p
  | cons s q ih =>
      cases p with
      | nil =>
          rw [hidden_nil_iff, hides_iff] at h
          cases h
          rw [turned_leaf]
          exact .of_hides rfl []
      | cons s' p =>
          rw [hidden_cons_iff] at h ⊢
          rcases h with h | h
          · cases hides_iff.1 h
            rw [turned_leaf]
            exact .inl rfl
          · rw [Option.bind_some] at h ⊢
            rw [child?_turned]
            by_cases hs : s' = s
            · subst hs
              rw [if_pos rfl]
              cases hc : m.child? s' with
              | none => exact absurd (hc ▸ h) not_hidden_none
              | some c => exact .inr (ih (hc ▸ h))
            · rw [if_neg hs]
              exact .inr h

/-! ### The theorem -/

/-- **A mask is a filter on paths.**  Under a mask the differences are those without one at paths
that it does not hide.  So a leaf other than `true` changes nothing; a candidate compares as it
would under the mask that its entry has; and turning entries to `true` only takes differences
away. -/
theorem diff_masked (a b m : Tree) :
    a.diff b (some m) = ((a.diff b none).filter fun d => ¬ Hidden (some m) d.path) ∧
    (∀ c : Scalar, c ≠ .bool true → a.diff b (some (.leaf c)) = a.diff b none) ∧
    (∀ (e : Plan.Entry) (deleted : List String) (c d : Plan.Candidate) (rules : List Ignore.Rule),
      e.creation? deleted = some c →
        judgeBy rules d c = judgeBy rules d { c with unknown := e.change.unknown.map .ofJson }) ∧
    ∀ qs : List Path, (a.diff b (some (qs.foldl turned m))).Sublist (a.diff b (some m)) := by
  refine ⟨differences_eq_filter _ _ _, fun c hc => diff_leaf hc a b, ?_, fun qs => ?_⟩
  · intro e deleted c d rules h
    obtain ⟨-, -, after, -, rfl⟩ := Plan.Entry.creation?_eq_some_iff.1 h
    simp only [judgeBy, diff_usefulMask?]
  · induction qs generalizing m with
    | nil => exact List.Sublist.refl _
    | cons q qs ih =>
        exact (ih (m.turned q)).trans (diff_sublist_of_hidden (fun p h => h.turned q) a b)

/-- A mask beside a list and a map: a later port and a tag are not known yet, and with the first
port turned as well only the other tag is left. -/
theorem diff_masked_tags_and_ports :
    let before : Tree := .map
      [("ports", .list [.leaf (.text "80"), .leaf (.text "443")]),
       ("tags", .map [("Name", .leaf (.text "a")), ("env", .leaf (.text "x"))])]
    let after : Tree := .map
      [("ports", .list [.leaf (.text "81")]), ("tags", .map [("env", .leaf (.text "y"))])]
    let mask : Tree := .map
      [("ports", .list [.leaf (.bool false), .leaf (.bool true)]),
       ("tags", .map [("Name", .leaf (.bool true))])]
    (before.diff after (some mask)).map (·.path) =
        [[.key "ports", .index 0], [.key "tags", .key "env"]] ∧
      (before.diff after (some (mask.turned [.key "ports", .index 0]))).map (·.path) =
        [[.key "tags", .key "env"]] ∧
      Scalar.null ≠ .bool true ∧
      before.diff after (some (.leaf .null)) = before.diff after none := by
  intro before after mask
  refine ⟨?_, ?_, by decide, (diff_masked before after mask).2.1 .null (by decide)⟩
  · rw [(diff_masked before after mask).1]
    cbv
  · rw [(diff_masked before after (mask.turned _)).1]
    cbv

end ResourceMoves.Attribute.Tree
