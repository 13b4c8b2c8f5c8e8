import ResourceMoves.Attribute.Json
import ResourceMoves.Proofs.Attribute.Mask
import ResourceMoves.Proofs.Matching.Marking
import ResourceMoves.Proofs.Plan.Attributes

/-!
# Attribute trees — comparing the other way round, and with itself

Nothing in a comparison prefers one of the trees.  The steps down two trees and the agreement of two
leaves are the same whichever comes first (`branches?_comm`, `agree_comm`), so exchanging the trees
exchanges the two sides of each difference (`differences_swap`).

A tree comes apart from itself just where it has a number that is not one (`apart_self_iff`), the one
scalar that does not agree with itself.  What is read from JSON has no such number
(`not_hasNumber_nan_ofJson`), so there a tree never differs from itself, whatever the mask.
**Diffing is symmetric and reflexive** (`diff_symmetric`).
-/

namespace ResourceMoves.Attribute

open ResourceMoves.Number (Binary64)

/-- The same disagreement with the trees exchanged. -/
def Difference.swap (d : Difference) : Difference := { d with before := d.after, after := d.before }

theorem Scalar.agrees_self_eq_false_iff {c : Scalar} :
    c.agrees c = false ↔ c = .number .nan := by
  cases c with
  | null => simp [agrees, same]
  | bool b => simp [agrees, same]
  | text s => simp [agrees, same]
  | number x =>
      by_cases hx : x = .nan
      · simp [agrees, same, hx, Binary64.agrees]
      · simp [agrees, same, hx, Binary64.agrees_self hx]

namespace Tree

open ResourceMoves.Matching (Findings judgeBy)
open ResourceMoves.Plan (Candidate)

variable {t : Tree} {node : Option Tree} {s : Segment} {p : Path} {x : Binary64}

/-! ### The other way round -/

theorem branches?_comm (a b : Tree) : branches? a b = branches? b a := by
  cases a <;> cases b <;> simp only [branches?]
  · rw [Nat.max_comm]
  · rw [Keyed.unionKeys_comm]

theorem agree_comm (a b : Tree) : agree a b = agree b a := by
  cases a <;> cases b <;> simp only [agree]
  exact Scalar.agrees_comm _ _

/-- **Exchanging the trees** exchanges the sides of each difference. -/
theorem differences_swap (before after mask : Option Tree) :
    differences after before mask = (differences before after mask).map .swap := by
  fun_induction differences before after mask with
  | case1 before after mask hmask =>
      unfold differences
      rw [if_pos hmask, List.map_nil]
  | case2 mask hmask => simp [differences]
  | case3 mask hmask b a segments hsegments ih =>
      rw [differences, if_neg hmask]
      simp only [branches?_comm a b, hsegments, List.map_flatMap]
      refine List.flatMap_congr fun s _ => ?_
      rw [ih s, List.map_map, List.map_map]
      rfl
  | case4 mask hmask b a hsegments hagree | case5 mask hmask b a hsegments hagree =>
      rw [differences, if_neg hmask]
      simp only [branches?_comm a b, hsegments, agree_comm a b, hagree]
      rfl
  | case6 mask hmask before after hnone hboth =>
      cases before with
      | none =>
          cases after with
          | none => exact (hnone rfl rfl).elim
          | some a => simp [differences, hmask, Difference.swap]
      | some b =>
          cases after with
          | none => simp [differences, hmask, Difference.swap]
          | some a => exact (hboth b a rfl rfl).elim

/-! ### A tree and itself -/

/-- The number stands somewhere in the tree. -/
def HasNumber (t : Tree) (x : Binary64) : Prop := ∃ p, t.lookup? p = some (.leaf (.number x))

/-- What has a child is a map or a list. -/
theorem alike_self_of_child? {c : Tree} (h : t.child? s = some c) : Alike t t := by
  cases t with
  | leaf a => cases h
  | list items => exact .list items items
  | map entries => exact .map entries entries

/-- **Where a tree comes apart from itself**: at the numbers that are none. -/
theorem apart_self_iff : Apart node node p ↔ at? node p = some (.leaf (.number .nan)) := by
  induction p generalizing node with
  | nil =>
      rw [apart_nil_iff, at?_nil]
      constructor
      · rintro ⟨hsome, hdiffer⟩
        obtain ⟨x, rfl⟩ := Option.isSome_iff_exists.1 (or_self_iff.1 hsome)
        obtain ⟨halike, hagree⟩ := hdiffer x x rfl rfl
        cases x with
        | leaf c => rw [Scalar.agrees_self_eq_false_iff.1 hagree]
        | list items => exact absurd (.list items items) halike
        | map entries => exact absurd (.map entries entries) halike
      · rintro rfl
        refine ⟨.inl rfl, ?_⟩
        rintro _ _ ⟨⟩ ⟨⟩
        exact ⟨nofun, rfl⟩
  | cons s p ih =>
      rw [apart_cons_iff]
      constructor
      · rintro ⟨x, _, rfl, ⟨⟩, -, hapart⟩
        exact ih.1 hapart
      · intro h
        cases node with
        | none => cases h
        | some x =>
            cases hc : x.child? s with
            | none => simp [at?, lookup?, hc] at h
            | some c =>
                refine ⟨x, x, rfl, rfl, alike_self_of_child? hc, ih.2 ?_⟩
                simpa [at?, lookup?, hc] using h

/-- A tree does not differ from itself, under any mask, when all its numbers are numbers. -/
theorem diff_self_eq_nil (h : ¬ t.HasNumber .nan) (mask : Option Tree) : t.diff t mask = [] := by
  have hplain : t.diff t none = [] := by
    refine List.eq_nil_iff_forall_not_mem.2 fun d hd => h ⟨d.path, ?_⟩
    exact apart_self_iff.1 (mem_differences_iff.1 hd).1
  rw [diff, differences_eq_filter, ← diff, hplain]
  rfl

theorem hasNumber_nan_of_diff_self (h : t.HasNumber .nan) : t.diff t none ≠ [] := by
  obtain ⟨p, hp⟩ := h
  have hapart : Apart (some t) (some t) p := apart_self_iff.2 hp
  exact List.ne_nil_of_mem (mem_differences_iff.2 ⟨hapart, rfl, rfl, rfl⟩)

/-- Without differences nothing is left to count. -/
theorem judgeBy_of_diff_eq_nil {rules : List Ignore.Rule} {d c : Candidate}
    (h : d.attributes.diff c.attributes c.unknown = []) : judgeBy rules d c = ⟨[], 0⟩ := by
  rw [judgeBy, h]
  rfl

/-! ### Trees that are read -/

theorem ofRatio_ne_nan (negative : Bool) (p q : Nat) : Binary64.ofRatio negative p q ≠ .nan := by
  have hparts (m : Nat) (e : Int) : Binary64.ofParts negative m e ≠ .nan := by
    rw [Binary64.ofParts]
    split <;> simp
  rw [Binary64.ofRatio]
  split
  · simp [Binary64.zero]
  · dsimp only
    split <;> exact hparts _ _

theorem ofNumber_ne_nan {n : Json.Number} (h : n.Proper) : Scalar.ofNumber n ≠ .number .nan := by
  cases n with
  | integer i =>
      intro e
      exact ofRatio_ne_nan _ _ _ (Scalar.number.inj e)
  | float x =>
      intro e
      cases Scalar.number.inj e
      cases h

theorem ofJsonItems_eq_map (items : List Json.Value) : ofJsonItems items = items.map ofJson := by
  induction items with
  | nil => rfl
  | cons v items ih => rw [ofJsonItems, ih, List.map_cons]

theorem ofJsonEntries_eq_map (entries : List (String × Json.Value)) :
    ofJsonEntries entries = entries.map fun e => (e.1, ofJson e.2) := by
  induction entries with
  | nil => rfl
  | cons e entries ih => rw [ofJsonEntries, ih, List.map_cons]

/-- The children of a proper value's tree are the trees of proper values. -/
theorem exists_of_child?_ofJson {v : Json.Value} (hv : v.Proper)
    (h : (ofJson v).child? s = some t) : ∃ w : Json.Value, w.Proper ∧ ofJson w = t := by
  cases hv with
  | null | bool | number | string => cases h
  | array hitems =>
      rw [ofJson, ofJsonItems_eq_map] at h
      cases s with
      | key k => cases h
      | index i =>
          obtain ⟨w, hw, rfl⟩ := List.mem_map.1 (List.mem_of_getElem? h)
          exact ⟨w, hitems w hw, rfl⟩
  | object hentries =>
      rw [ofJson, ofJsonEntries_eq_map] at h
      cases s with
      | index i => cases h
      | key k =>
          obtain ⟨e, he, heq⟩ := List.mem_map.1 (Keyed.mem_of_find? h)
          cases heq
          exact ⟨e.2, hentries e he, rfl⟩

/-- **The tree of a proper value** has only numbers that are numbers. -/
theorem not_hasNumber_nan_ofJson {v : Json.Value} (hv : v.Proper) :
    ¬ (ofJson v).HasNumber .nan := by
  rintro ⟨p, hp⟩
  induction p generalizing v with
  | nil =>
      cases hv with
      | number hn => exact ofNumber_ne_nan hn (leaf.inj (Option.some.inj hp))
      | null | bool | string | array | object => cases hp
  | cons s p ih =>
      obtain ⟨c, hc, hp⟩ := Option.bind_eq_some_iff.1 hp
      obtain ⟨w, hw, rfl⟩ := exists_of_child?_ofJson hv hc
      exact ih hw hp

/-! ### The theorem -/

/-- **Diffing is symmetric and reflexive.**  Exchanging two trees exchanges the sides of each
difference and leaves their order as it is.  A tree differs from itself under no mask just when all
its numbers are numbers, and that is so of every tree that is read, and of the candidates of every
plan that is read.  So two candidates with the same attributes have no differences and score 0,
whatever the rules. -/
theorem diff_symmetric :
    (∀ (a b : Tree) (mask : Option Tree), b.diff a mask = (a.diff b mask).map .swap) ∧
    (∀ t : Tree, (∀ mask, t.diff t mask = []) ↔ ¬ t.HasNumber .nan) ∧
    (∀ (text : String) (t : Tree), ofText? text = some t → ¬ t.HasNumber .nan) ∧
    (∀ (text : String) (p : Plan), Plan.ofText? text = some p →
      ∀ c ∈ p.candidates.deletes ++ p.candidates.creates, ¬ c.attributes.HasNumber .nan) ∧
    ∀ (rules : List Ignore.Rule) (d c : Candidate), d.attributes = c.attributes →
      ¬ d.attributes.HasNumber .nan → judgeBy rules d c = ⟨[], 0⟩ := by
  refine ⟨fun a b mask => differences_swap _ _ _, fun t => ⟨fun h hnan => ?_, diff_self_eq_nil⟩,
    fun text t h => ?_, fun text p h c hc => ?_, fun rules d c h hnan => ?_⟩
  · exact hasNumber_nan_of_diff_self hnan (h none)
  · obtain ⟨v, hv, rfl⟩ := Option.map_eq_some_iff.1 h
    exact not_hasNumber_nan_ofJson (Json.Value.proper_of_ofText? hv)
  · obtain ⟨v, hv, heq⟩ := Plan.exists_proper_of_ofText? h hc
    rw [heq]
    exact not_hasNumber_nan_ofJson hv
  · exact judgeBy_of_diff_eq_nil (h ▸ diff_self_eq_nil hnan _)

/-- A plan that destroys one resource, its fields in order. -/
def portsPlan : String :=
  "[null,null,[[\"t.a\",null,\"t\",null,\"\",null,[[\"delete\"],[80,\"443\"]]]]]"

/-- The ports of a resource as they are read, a number beside a text, do not differ from themselves,
and the resource does not differ from its copy at another address. -/
theorem diff_symmetric_ports :
    ∃ t p d, ofText? "[80,\"443\"]" = some t ∧ ¬ t.HasNumber .nan ∧
      t.diff t (some (.list [.leaf (.bool true)])) = [] ∧
      Plan.ofText? portsPlan = some p ∧ d ∈ p.candidates.deletes ++ p.candidates.creates ∧
      ¬ d.attributes.HasNumber .nan ∧
      judgeBy [] d { d with address := "t.b", side := .create } = ⟨[], 0⟩ := by
  obtain ⟨-, hself, htext, hplan, hjudge⟩ := diff_symmetric
  obtain ⟨t, ht⟩ := Option.isSome_iff_exists.1
    (by decide +kernel : (ofText? "[80,\"443\"]").isSome)
  obtain ⟨p, hp, hd⟩ := (Option.any_eq_true _ _).1
    (by decide +kernel : (Plan.ofText? portsPlan).any fun p => p.candidates.deletes.length == 1)
  obtain ⟨d, hd⟩ := List.length_eq_one_iff.1 (beq_iff_eq.1 hd)
  have hmem : d ∈ p.candidates.deletes ++ p.candidates.creates := by simp [hd]
  have hnan := hplan portsPlan p hp d hmem
  exact ⟨t, p, d, ht, htext _ t ht, (hself t).2 (htext _ t ht) _, hp, hmem, hnan,
    hjudge [] d { d with address := "t.b", side := .create } rfl hnan⟩

end Tree

end ResourceMoves.Attribute
