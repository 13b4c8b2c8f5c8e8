import ResourceMoves.Attribute.Difference
import ResourceMoves.Proofs.Text.ByteOrder

/-!
# Attribute trees — going down two trees

Two trees are compared child by child when both are maps or both are lists (`Alike`), and then at
each key or index that leads somewhere in one of them (`mem_branches`), in increasing order
(`branches_pairwise`).  So the paths of all differences are in lexicographic order and none is a
prefix of another, whatever the mask hides (`differences_pairwise`): two of them part at the node
below which both lie.
-/

namespace ResourceMoves.Attribute

/-- Keys by the bytes of their text, indices by number.  A key and an index are not compared: no
node has both below it. -/
inductive Segment.Less : Segment → Segment → Prop
  | key {k l : String} (h : Text.encode k < Text.encode l) : Less (.key k) (.key l)
  | index {i j : Nat} (h : i < j) : Less (.index i) (.index j)

theorem Segment.not_less_self (s : Segment) : ¬ s.Less s := by
  intro h
  cases h with
  | key h => exact List.lt_irrefl _ h
  | index h => exact Nat.lt_irrefl _ h

namespace Tree

/-- Two maps, or two lists. -/
inductive Alike : Tree → Tree → Prop
  | map (a b : List (String × Tree)) : Alike (.map a) (.map b)
  | list (a b : List Tree) : Alike (.list a) (.list b)

variable {a b : Tree} {segments : List Segment}

/-! ### The steps down two trees -/

theorem alike_iff : Alike a b ↔ ∃ segments, branches? a b = some segments := by
  constructor
  · intro h
    cases h with
    | map a b => exact ⟨_, rfl⟩
    | list a b => exact ⟨_, rfl⟩
  · rintro ⟨segments, h⟩
    cases a <;> cases b <;> simp only [branches?, reduceCtorEq] at h
    · exact .list _ _
    · exact .map _ _

/-- The steps are those that lead somewhere in one of the trees. -/
theorem mem_branches (h : branches? a b = some segments) {s : Segment} :
    s ∈ segments ↔ (a.child? s).isSome ∨ (b.child? s).isSome := by
  cases alike_iff.2 ⟨_, h⟩ with
  | map a b =>
      cases h
      cases s with
      | key k => simp [child?, Keyed.mem_unionKeys]
      | index i => simp [child?]
  | list a b =>
      cases h
      cases s with
      | key k => simp [child?]
      | index i => simp [child?]

/-- The steps are taken in increasing order. -/
theorem branches_pairwise (h : branches? a b = some segments) :
    segments.Pairwise Segment.Less := by
  cases alike_iff.2 ⟨_, h⟩ with
  | map a b =>
      cases h
      exact List.pairwise_map.2
        ((Keyed.unionKeys_pairwise a b).imp fun hlt => .key (Text.encode_lt_encode hlt))
  | list a b =>
      cases h
      exact List.pairwise_map.2 (List.pairwise_lt_range.imp fun hlt => .index hlt)

/-! ### The order of the differences -/

/-- **The differences are in path order**, any two of them apart below some node. -/
theorem differences_pairwise (before after mask : Option Tree) :
    (differences before after mask).Pairwise
      fun d e => Parts Segment.Less d.path e.path := by
  fun_induction differences before after mask with
  | case1 => exact .nil
  | case2 => exact .nil
  | case3 mask hmask b a segments hsegments ih =>
      rw [List.pairwise_flatMap]
      refine ⟨fun s _ => ?_, (branches_pairwise hsegments).imp fun hless d hd e he => ?_⟩
      · exact List.pairwise_map.2 ((ih s).imp fun hparts => hparts.later)
      · obtain ⟨d, -, rfl⟩ := List.mem_map.1 hd
        obtain ⟨e, -, rfl⟩ := List.mem_map.1 he
        exact .here hless
  | case4 => exact .nil
  | case5 => exact List.pairwise_singleton _ _
  | case6 => exact List.pairwise_singleton _ _

end Tree

end ResourceMoves.Attribute
