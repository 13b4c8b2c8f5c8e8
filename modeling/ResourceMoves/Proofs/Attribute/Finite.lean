import ResourceMoves.Proofs.Attribute.Symmetry
import ResourceMoves.Proofs.Number.Integers

/-!
# Attribute trees — finite numbers

The trees whose numbers are finite (`Tree.Finite`), said by constructors, so that it goes down to
their nodes and induction over it is induction over the tree.  **Every tree that is read is one of
them** (`Tree.finite_of_ofText?`): JSON has no text for an infinity or `nan`, and an integer of 64
bits is far below the greatest double.
-/

namespace ResourceMoves.Attribute

open ResourceMoves.Number (Binary64 pow2)

/-- The scalar is no infinity and not `nan`. -/
def Scalar.Finite (c : Scalar) : Prop := ∀ x, c = .number x → x.isFinite

namespace Tree

/-- All numbers of the tree are finite. -/
inductive Finite : Tree → Prop
  | leaf {c : Scalar} (h : c.Finite) : Finite (.leaf c)
  | list {items : List Tree} (h : ∀ t ∈ items, Finite t) : Finite (.list items)
  | map {entries : List (String × Tree)} (h : ∀ e ∈ entries, Finite e.2) : Finite (.map entries)

variable {t u : Tree} {s : Segment} {p : Path}

/-! ### Nodes -/

theorem Finite.child? (h : t.Finite) (hu : t.child? s = some u) : u.Finite := by
  cases h with
  | leaf => cases hu
  | list hitems =>
      cases s with
      | key => cases hu
      | index i => exact hitems u (List.mem_of_getElem? hu)
  | map hentries =>
      cases s with
      | key k => exact hentries (k, u) (Keyed.mem_of_find? hu)
      | index => cases hu

/-- The nodes of a tree of finite numbers are such trees too. -/
theorem Finite.lookup? (h : t.Finite) (hu : t.lookup? p = some u) : u.Finite := by
  induction p generalizing t with
  | nil =>
      cases hu
      exact h
  | cons s p ih =>
      obtain ⟨c, hc, hu⟩ := Option.bind_eq_some_iff.1 hu
      exact ih (h.child? hc) hu

/-! ### Trees that are read -/

theorem finite_ofNumber {n : Json.Number} (hn : n.Proper) : (Scalar.ofNumber n).Finite := by
  intro x hx
  cases n with
  | integer i =>
      cases hx
      refine Binary64.isFinite_ofInt ?_
      simp only [Json.Number.Proper, Json.Number.isWord, Bool.and_eq_true, decide_eq_true_eq] at hn
      have hlow : pow2 63 < pow2 65 := Nat.pow_lt_pow_right (by decide) (by decide)
      have hhigh : pow2 64 < pow2 65 := Nat.pow_lt_pow_right (by decide) (by decide)
      omega
  | float y =>
      cases hx
      exact hn

/-- The tree of a proper value has only finite numbers. -/
theorem finite_ofJson {v : Json.Value} (hv : v.Proper) : (ofJson v).Finite := by
  induction hv with
  | null | bool | string => exact .leaf (by rintro _ ⟨⟩)
  | number hn => exact .leaf (finite_ofNumber hn)
  | array hitems ih =>
      rw [ofJson, ofJsonItems_eq_map]
      refine .list fun t ht => ?_
      obtain ⟨v, hv, rfl⟩ := List.mem_map.1 ht
      exact ih v hv
  | object hentries ih =>
      rw [ofJson, ofJsonEntries_eq_map]
      refine .map fun e he => ?_
      obtain ⟨entry, hentry, rfl⟩ := List.mem_map.1 he
      exact ih entry hentry

/-- **A tree that is read** has only finite numbers. -/
theorem finite_of_ofText? {text : String} (h : ofText? text = some t) : t.Finite := by
  obtain ⟨v, hv, rfl⟩ := Option.map_eq_some_iff.1 h
  exact finite_ofJson (Json.Value.proper_of_ofText? hv)

end Tree

end ResourceMoves.Attribute
