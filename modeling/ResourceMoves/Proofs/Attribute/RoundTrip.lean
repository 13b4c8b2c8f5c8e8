import Mathlib.Data.List.Forall2
import ResourceMoves.Proofs.Attribute.Finite

/-!
# Attribute trees — through JSON and back

Two trees are the same when they have the same shape, keys and leaves, numbers compared as doubles
(`Tree.Same`), which leaves out only the sign of a zero.  Nothing that is asked of a tree tells two
such trees apart: neither its size (`Same.size_eq`) nor its differences to another tree, under any
mask (`differences_same`).

**A tree of finite numbers survives JSON** (`toJson_faithful`).  Written as JSON, a whole number
below 2⁵³ becomes an integer of 64 bits, which is exact, and any other stays a double; all else is
kept as it is.  So what is read back is the same tree.
-/

namespace ResourceMoves.Attribute

open ResourceMoves.Number (Binary64 pow2)

/-! ### The same tree -/

/-- The same shape, keys and leaves; numbers are compared as doubles. -/
inductive Tree.Same : Tree → Tree → Prop
  | leaf {a b : Scalar} (h : a.same b) : Same (.leaf a) (.leaf b)
  | list {xs ys : List Tree} (h : List.Forall₂ Same xs ys) : Same (.list xs) (.list ys)
  | map {xs ys : List (String × Tree)} (hkeys : xs.map (·.1) = ys.map (·.1))
      (h : List.Forall₂ Same (xs.map (·.2)) (ys.map (·.2))) : Same (.map xs) (.map ys)

/-- One side of the same disagreement. -/
def SameSide (x y : Option Tree) : Prop := x = y ∨ Option.Rel Tree.Same x y

/-- The same disagreement, at the same path. -/
structure Difference.Same (d d' : Difference) : Prop where
  path    : d.path = d'.path
  before  : SameSide d.before d'.before
  after   : SameSide d.after d'.after
  ignored : d.ignored = d'.ignored

/-- Seen from the parent it is the same disagreement, too. -/
theorem Difference.Same.under {d d' : Difference} (h : d.Same d') (s : Segment) :
    (d.under s).Same (d'.under s) :=
  ⟨congrArg (s :: ·) h.path, h.before, h.after, h.ignored⟩

theorem Difference.Same.swap {d d' : Difference} (h : d.Same d') : d.swap.Same d'.swap :=
  ⟨h.path, h.after, h.before, h.ignored⟩

/-- Numbers that agree do so with the same numbers. -/
theorem agrees_congr {x y : Binary64} (h : x.agrees y) (z : Binary64) :
    x.agrees z = y.agrees z := by
  cases x <;> cases y <;> simp only [Binary64.agrees, Bool.false_eq_true] at h
  · rw [beq_iff_eq] at h
    rw [h]
  · simp only [Bool.and_eq_true, Bool.or_eq_true, beq_iff_eq] at h
    obtain ⟨⟨rfl, rfl⟩, hsign | hzero⟩ := h
    · rw [hsign]
    · cases z <;> simp [Binary64.agrees, hzero]

namespace Scalar

variable {a b : Scalar}

/-- Only numbers can be the same without being equal. -/
theorem same_cases (h : a.same b) :
    a = b ∨ ∃ x y, a = .number x ∧ b = .number y ∧ x.agrees y := by
  cases a <;> cases b <;> simp only [same, Bool.false_eq_true, beq_iff_eq] at h
  · exact .inl rfl
  · exact .inl (congrArg _ h)
  · exact .inr ⟨_, _, rfl, rfl, h⟩
  · exact .inl (congrArg _ h)

/-- Scalars that are the same agree with the same scalars. -/
theorem agrees_congr (h : a.same b) (c : Scalar) : a.agrees c = b.agrees c := by
  rcases same_cases h with rfl | ⟨x, y, rfl, rfl, hxy⟩
  · rfl
  · cases c with
    | null | bool => rfl
    | number z => exact Attribute.agrees_congr hxy z
    | text s =>
        have hz (z : Binary64) : z.agrees x = z.agrees y := by
          rw [Binary64.agrees_comm z x, Binary64.agrees_comm z y, Attribute.agrees_congr hxy z]
        simp only [agrees, spells, hz]

end Scalar

namespace Tree

variable {t u t' u' : Tree} {s : Segment}

/-! ### What is the same of trees that are the same -/

theorem sizeEntries_eq_sizeItems (entries : List (String × Tree)) :
    sizeEntries entries = sizeItems (entries.map (·.2)) := by
  induction entries with
  | nil => rfl
  | cons e entries ih => rw [sizeEntries, ih, List.map_cons, sizeItems]

/-- Trees that are the same have as many nodes. -/
theorem Same.size_eq {t u : Tree} (h : t.Same u) : t.size = u.size := by
  -- the nodes below are the same too, and fewer
  have hbelow (xs ys : List Tree) (hxs : sizeItems xs < t.size) (h : List.Forall₂ Same xs ys) :
      sizeItems xs = sizeItems ys := by
    induction h with
    | nil => rfl
    | @cons x y xs ys h _ ih =>
        have hcons : x.size + sizeItems xs < t.size := hxs
        rw [sizeItems, sizeItems, h.size_eq, ih (by omega)]
  cases h with
  | leaf => rw [size, size]
  | list h =>
      have hsizes := hbelow _ _ (by rw [size]; omega) h
      rw [size, size, hsizes]
  | map _ h =>
      have hsizes := hbelow _ _ (by rw [size, sizeEntries_eq_sizeItems]; omega) h
      rw [size, size, sizeEntries_eq_sizeItems, sizeEntries_eq_sizeItems, hsizes]
termination_by t.size
decreasing_by omega

/-- Two maps with the same keys and values have the same under each key. -/
theorem find?_same {es fs : List (String × Tree)} (key : String)
    (hkeys : es.map (·.1) = fs.map (·.1)) (h : List.Forall₂ Same (es.map (·.2)) (fs.map (·.2))) :
    Option.Rel Same (Keyed.find? key es) (Keyed.find? key fs) := by
  induction es generalizing fs with
  | nil =>
      cases fs with
      | nil => exact .none
      | cons => cases hkeys
  | cons e es ih =>
      cases fs with
      | nil => cases hkeys
      | cons f fs =>
          obtain ⟨hkey, hkeys⟩ := List.cons.inj hkeys
          cases h with
          | cons hvalue h =>
              dsimp only at hkey
              rw [Keyed.find?, Keyed.find?, ← hkey]
              split
              · exact .some hvalue
              · exact ih hkeys h

theorem getElem?_same {xs ys : List Tree} (h : List.Forall₂ Same xs ys) (i : Nat) :
    Option.Rel Same xs[i]? ys[i]? := by
  induction h generalizing i with
  | nil => exact .none
  | cons h _ ih =>
      cases i with
      | zero => exact .some h
      | succ i => exact ih i

/-- Trees that are the same have the same children. -/
theorem Same.child? (h : t.Same u) (s : Segment) :
    Option.Rel Same (t.child? s) (u.child? s) := by
  cases h with
  | leaf => cases s <;> exact .none
  | list h =>
      cases s with
      | key => exact .none
      | index i => exact getElem?_same h i
  | map hkeys h =>
      cases s with
      | key key => exact find?_same key hkeys h
      | index => exact .none

/-- Trees that are the same are compared with another tree alike, child by child or as a whole. -/
theorem branches?_congr (h : t.Same u) (other : Tree) :
    branches? t other = branches? u other := by
  cases h with
  | leaf => rfl
  | list h =>
      cases other with
      | leaf | map => rfl
      | list => rw [branches?, branches?, h.length_eq]
  | map hkeys =>
      cases other with
      | leaf | list => rfl
      | map es =>
          have hunion (fs : List (String × Tree)) : Keyed.unionKeys fs es =
              (Keyed.ofEntries ((fs.map (·.1) ++ es.map (·.1)).map (·, ()))).map (·.1) := by
            rw [← List.map_append, List.map_map]
            rfl
          rw [branches?, branches?, hunion, hunion, hkeys]

theorem agree_congr (h : t.Same u) (other : Tree) : agree t other = agree u other := by
  cases h with
  | leaf h =>
      cases other with
      | leaf c => exact Scalar.agrees_congr h c
      | list | map => rfl
  | list | map => rfl

/-! ### Differences -/

/-- **Trees that are the same** have the same differences to another tree. -/
theorem differences_same {before before' : Option Tree} (h : Option.Rel Same before before')
    (after mask : Option Tree) :
    List.Forall₂ Difference.Same (differences before after mask)
      (differences before' after mask) := by
  fun_induction differences before after mask generalizing before' with
  | case1 before after mask hmask =>
      unfold differences
      rw [if_pos hmask]
      exact .nil
  | case2 mask hmask =>
      cases h
      rw [differences, if_neg hmask]
      exact .nil
  | case3 mask hmask b a segments hsegments ih =>
      cases h with
      | some h =>
          rw [differences, if_neg hmask]
          simp only [← branches?_congr h, hsegments]
          refine List.rel_flatMap (List.forall₂_same.2 fun s _ => rfl) ?_
          rintro s _ rfl
          rw [List.forall₂_map_left_iff, List.forall₂_map_right_iff]
          exact (ih s (h.child? s)).imp fun _ _ hd => hd.under s
  | case4 mask hmask b a hsegments hagree =>
      cases h with
      | some h =>
          rw [differences, if_neg hmask]
          simp only [← branches?_congr h, hsegments, ← agree_congr h, hagree]
          exact .nil
  | case5 mask hmask b a hsegments hagree =>
      cases h with
      | some h =>
          rw [differences, if_neg hmask]
          simp only [← branches?_congr h, hsegments, ← agree_congr h, hagree]
          exact .cons ⟨rfl, .inr (.some h), .inl rfl, rfl⟩ .nil
  | case6 mask hmask before after hnone hboth =>
      cases h with
      | none =>
          rw [differences, if_neg hmask]
          · exact .cons ⟨rfl, .inl rfl, .inl rfl, rfl⟩ .nil
          · exact hnone
          · exact hboth
      | some h =>
          cases after with
          | none =>
              rw [differences, if_neg hmask]
              · exact .cons ⟨rfl, .inr (.some h), .inl rfl, rfl⟩ .nil
              · rintro ⟨⟩
              · rintro _ _ _ ⟨⟩
          | some a => exact (hboth _ _ rfl rfl).elim

/-- The same on the other side. -/
theorem differences_same_right {after after' : Option Tree} (h : Option.Rel Same after after')
    (before mask : Option Tree) :
    List.Forall₂ Difference.Same (differences before after mask)
      (differences before after' mask) := by
  rw [differences_swap after before, differences_swap after' before, List.forall₂_map_left_iff,
    List.forall₂_map_right_iff]
  exact (differences_same h before mask).imp fun _ _ hd => hd.swap

end Tree

/-! ### Numbers -/

/-- A whole number below 2⁵³ becomes an integer, which is exact. -/
theorem numberToJson_of_whole {x : Binary64} {i : Int} (h : x.whole? = some i)
    (hi : i.natAbs < exactBound) : numberToJson x = .int i := by
  have hfinite : x.isFinite := by
    cases x with
    | nan | infinite => cases h
    | finite => rfl
  rw [numberToJson, if_pos hfinite, h]
  exact if_pos hi

/-- Any other number stays a double. -/
theorem numberToJson_of_not_whole {x : Binary64} (hfinite : x.isFinite)
    (h : ∀ i, x.whole? = some i → exactBound ≤ i.natAbs) : numberToJson x = .number (.float x) := by
  rw [numberToJson, if_pos hfinite]
  cases hwhole : x.whole? with
  | none => rfl
  | some i => exact if_neg (Nat.not_lt.2 (h i hwhole))

/-- A number that is read back agrees with what was written. -/
theorem ofJson_numberToJson {x : Binary64} (hfinite : x.isFinite) :
    ∃ y, Tree.ofJson (numberToJson x) = .leaf (.number y) ∧ y.agrees x := by
  by_cases h : ∃ i, x.whole? = some i ∧ i.natAbs < exactBound
  · obtain ⟨i, hi, hbound⟩ := h
    rw [numberToJson_of_whole hi hbound]
    exact ⟨.ofInt i, rfl, Binary64.ofInt_agrees_of_whole? hi hbound⟩
  · have hlarge : ∀ i, x.whole? = some i → exactBound ≤ i.natAbs := fun i hi =>
      Nat.not_lt.1 fun hbound => h ⟨i, hi, hbound⟩
    rw [numberToJson_of_not_whole hfinite hlarge]
    exact ⟨x, rfl, Binary64.agrees_self fun hnan => by rw [hnan] at hfinite; cases hfinite⟩

/-! ### Trees -/

namespace Tree

variable {t : Tree}

theorem toJsonItems_eq_map (items : List Tree) : toJsonItems items = items.map toJson := by
  induction items with
  | nil => rfl
  | cons t items ih => rw [toJsonItems, ih, List.map_cons]

theorem toJsonEntries_eq_map (entries : List (String × Tree)) :
    toJsonEntries entries = entries.map fun e => (e.1, e.2.toJson) := by
  induction entries with
  | nil => rfl
  | cons e entries ih => rw [toJsonEntries, ih, List.map_cons]

theorem ofJson_scalar {c : Scalar} (h : c.Finite) : (ofJson c.toJson).Same (.leaf c) := by
  cases c with
  | null => exact .leaf rfl
  | bool b => exact .leaf (beq_self_eq_true b)
  | text s => exact .leaf (beq_self_eq_true s)
  | number x =>
      obtain ⟨y, hy, hagree⟩ := ofJson_numberToJson (h x rfl)
      rw [Scalar.toJson, hy]
      exact .leaf hagree

/-- **What is read back is the same tree.** -/
theorem ofJson_toJson_same (h : t.Finite) : (ofJson t.toJson).Same t := by
  induction h with
  | leaf h => exact ofJson_scalar h
  | list _ ih =>
      rw [toJson, toJsonItems_eq_map, ofJson, ofJsonItems_eq_map, List.map_map]
      exact .list (List.forall₂_map_left_iff.2 (List.forall₂_same.2 ih))
  | map _ ih =>
      rw [toJson, toJsonEntries_eq_map, ofJson, ofJsonEntries_eq_map, List.map_map]
      refine .map (by simp) ?_
      rw [List.map_map, List.forall₂_map_left_iff, List.forall₂_map_right_iff]
      exact List.forall₂_same.2 ih

/-! ### The theorem -/

/-- **A tree survives JSON.**  Of a tree of finite numbers, and so of every tree that is read, what
is written as JSON is read back as the same tree.  It has as many nodes, and under any mask it
differs from any third tree as the first does, on whichever side it stands.  Whole numbers below
2⁵³ are written as integers of 64 bits with a sign, which are exact, and all others as doubles. -/
theorem toJson_faithful :
    (∀ t : Tree, t.Finite →
      (ofJson t.toJson).Same t ∧ (ofJson t.toJson).size = t.size ∧
      ∀ (u : Tree) (mask : Option Tree),
        List.Forall₂ Difference.Same ((ofJson t.toJson).diff u mask) (t.diff u mask) ∧
        List.Forall₂ Difference.Same (u.diff (ofJson t.toJson) mask) (u.diff t mask)) ∧
    (∀ (text : String) (t : Tree), ofText? text = some t → t.Finite) ∧
    (∀ (x : Binary64) (i : Int), x.whole? = some i → i.natAbs < pow2 53 →
      numberToJson x = .int i ∧ -pow2 63 ≤ i ∧ i < pow2 63 ∧ (Binary64.ofInt i).agrees x) ∧
    ∀ x : Binary64, x.isFinite → (∀ i, x.whole? = some i → pow2 53 ≤ i.natAbs) →
      numberToJson x = .number (.float x) := by
  refine ⟨fun t ht => ?_, fun text t => finite_of_ofText?, fun x i hi hbound => ?_,
    fun x => numberToJson_of_not_whole⟩
  · have hsame := ofJson_toJson_same ht
    exact ⟨hsame, hsame.size_eq, fun u mask =>
      ⟨differences_same (.some hsame) _ mask, differences_same_right (.some hsame) _ mask⟩⟩
  · have hword : pow2 53 < pow2 63 := Nat.pow_lt_pow_right (by decide) (by decide)
    exact ⟨numberToJson_of_whole hi hbound, by omega, by omega,
      Binary64.ofInt_agrees_of_whole? hi hbound⟩

/-- Two amounts, one of them a negative zero, and a limit that is too large for an integer. -/
def amountsText : String := "\x7b\"amounts\":[-0.0,-3],\"limit\":9007199254740992\x7d"

/-- The amounts come back the same, the negative zero as zero; the limit stays a double. -/
theorem toJson_faithful_amounts :
    ∃ t, ofText? amountsText = some t ∧ t.Finite ∧
      (ofJson t.toJson).Same t ∧ (ofJson t.toJson).size = 5 ∧
      List.Forall₂ Difference.Same ((ofJson t.toJson).diff (.list []) none)
        (t.diff (.list []) none) ∧
      (Binary64.zero true).whole? = some 0 ∧ numberToJson (.zero true) = .int 0 ∧
      (Binary64.ofInt 9007199254740992).isFinite ∧
      numberToJson (.ofInt 9007199254740992) = .number (.float (.ofInt 9007199254740992)) := by
  obtain ⟨hfaithful, hread, hinteger, hdouble⟩ := toJson_faithful
  obtain ⟨t, ht, hsize⟩ := (Option.any_eq_true _ _).1
    (by decide +kernel : (ofText? amountsText).any fun t => t.size == 5)
  have hfinite := hread amountsText t ht
  obtain ⟨hsame, hnodes, hdiff⟩ := hfaithful t hfinite
  have hzero : (Binary64.zero true).whole? = some 0 := by decide +kernel
  have hlarge : (Binary64.ofInt 9007199254740992).isFinite := by decide +kernel
  have hwhole : (Binary64.ofInt 9007199254740992).whole? = some 9007199254740992 := by
    decide +kernel
  refine ⟨t, ht, hfinite, hsame, hnodes.trans (beq_iff_eq.1 hsize), (hdiff _ _).1, hzero,
    (hinteger _ 0 hzero (by decide)).1, hlarge, hdouble _ hlarge fun i hi => ?_⟩
  rw [hwhole] at hi
  cases hi
  decide

end Tree

end ResourceMoves.Attribute
