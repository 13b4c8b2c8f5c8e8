import ResourceMoves.Proofs.Ignore.Distinction
import ResourceMoves.Proofs.Matching.Marking

/-!
# Matching — a rule for each difference

Which differences of two candidates a rule can name without the others (`SingledOut`).  A rule has no
way to quote, so a key is out of reach of literals if it is empty or has a dot or a star in it, and
what is left for it is a star, which takes its neighbours too.

**What decides is confusion alone** (`judgeBy_singledOut`): a difference below the root can be singled
out just when no other is confused with it, or none is confused below it.  That is so in particular
if literals can be written for all keys of its path.
-/

namespace ResourceMoves.Matching

open ResourceMoves.Attribute (Difference Segment)
open ResourceMoves.Attribute.Tree (Apart at? apart_nil_iff apart_cons_iff mem_differences_iff)
open ResourceMoves.Ignore (Rule Writable Expressible Blurred Confused ConfusedBelow InMemory)
open ResourceMoves.Plan (Candidate Side)

variable {delete create : Candidate} {d e : Difference}

/-- Some text is read as a rule that matches the difference and no other of the two candidates. -/
def SingledOut (delete create : Candidate) (d : Difference) : Prop :=
  ∃ text r, Rule.ofText? text = .ok r ∧ r.matches create.type d.path ∧
    ∀ e ∈ (judgeBy [] delete create).differences, e ≠ d → r.matches create.type e.path = false

/-- What distinguishes the paths of all differences distinguishes the differences. -/
theorem singledOut_iff (hroot : d.path ≠ []) : SingledOut delete create d ↔
    (∀ e ∈ (judgeBy [] delete create).differences, e ≠ d → ¬ Confused d.path e.path) ∨
    (∀ e ∈ (judgeBy [] delete create).differences, e ≠ d → ¬ ConfusedBelow d.path e.path) := by
  classical
  have h := Ignore.exists_rule_iff hroot create.type
    (((judgeBy [] delete create).differences.filter (· ≠ d)).map (·.path))
  simp only [List.forall_mem_map, List.mem_filter, decide_eq_true_eq, and_imp] at h
  exact h

/-- Two differences lie on paths that part. -/
theorem parts_of_ne (hd : d ∈ (judgeBy [] delete create).differences)
    (he : e ∈ (judgeBy [] delete create).differences) (hne : e ≠ d) :
    Parts Segment.Less d.path e.path ∨ Parts Segment.Less e.path d.path := by
  rw [judgeBy_differences, List.mem_map] at hd he
  obtain ⟨x, hx, rfl⟩ := hd
  obtain ⟨y, hy, rfl⟩ := he
  obtain ⟨before, after, hdiff⟩ := List.append_of_mem hx
  have hother : y ∈ before ++ after := by
    rw [hdiff, List.mem_append, List.mem_cons] at hy
    rcases hy with hy | rfl | hy
    · exact List.mem_append_left _ hy
    · exact absurd rfl hne
    · exact List.mem_append_right _ hy
  -- a mark does not change the path
  change Parts Segment.Less x.path y.path ∨ Parts Segment.Less y.path x.path
  exact parts_of_diff_eq hdiff hother

/-! ### Keys with dots -/

/-- A candidate of the type `t` with one text as the value of all its labels. -/
def labelled (side : Side) (address value : String) (keys : List String) : Candidate where
  address    := address
  type       := "t"
  provider   := ""
  side       := side
  attributes := .map [("labels", .map (keys.map fun key => (key, .leaf (.text value))))]
  unknown    := none

/-- The differences when all labels get another value. -/
def relabelling (keys : List String) : List Difference :=
  (judgeBy [] (labelled .delete "t.old" "1" keys) (labelled .create "t.new" "2" keys)).differences

/-- The difference that one label makes then. -/
def relabelled (key : String) : Difference where
  path   := [.key "labels", .key key]
  before := some (.leaf (.text "1"))
  after  := some (.leaf (.text "2"))

theorem find?_map_key {key : String} {keys : List String} (h : key ∈ keys) (value : Attribute.Tree) :
    Keyed.find? key (keys.map fun key => (key, value)) = some value := by
  induction keys with
  | nil => cases h
  | cons k keys ih =>
      rw [List.map_cons, Keyed.find?]
      split
      case isTrue => rfl
      case isFalse hk =>
        rcases List.mem_cons.1 h with rfl | h
        · exact absurd rfl hk
        · exact ih h

theorem relabelled_mem {key : String} {keys : List String} (h : key ∈ keys) :
    relabelled key ∈ relabelling keys := by
  have hchild (value : Attribute.Tree) :
      Attribute.Tree.child? (.map (keys.map fun key => (key, value))) (.key key) = some value :=
    find?_map_key h value
  have hleaves : Apart (some (.leaf (.text "1"))) (some (.leaf (.text "2"))) [] :=
    apart_nil_iff.2 ⟨.inl rfl, by rintro _ _ ⟨⟩ ⟨⟩; exact ⟨nofun, by decide⟩⟩
  have hlabels : Apart (some (labelled .delete "t.old" "1" keys).attributes)
      (some (labelled .create "t.new" "2" keys).attributes) [.key "labels", .key key] :=
    apart_cons_iff.2 ⟨_, _, rfl, rfl, .map _ _, apart_cons_iff.2 ⟨_, _, rfl, rfl, .map _ _, by
      rwa [hchild, hchild]⟩⟩
  have hat (side : Side) (address value : String) :
      at? (some (labelled side address value keys).attributes) [.key "labels", .key key] =
        some (.leaf (.text value)) :=
    congrArg (Option.bind · some) (hchild (.leaf (.text value)))
  exact List.mem_map.2 ⟨relabelled key,
    mem_differences_iff.2 ⟨hlabels, (hat ..).symm, (hat ..).symm, rfl⟩, rfl⟩

/-- No literal names a key with a dot in it, so such a label is confused with all others. -/
theorem relabelled_confused {key : String} (hdot : '.' ∈ key.toList) (other : String) :
    Confused (relabelled key).path (relabelled other).path ∧
      ConfusedBelow (relabelled key).path (relabelled other).path := by
  have hblurred : Blurred (.key key) (.key other) := by
    refine .inexpressible (fun h => ?_) _
    cases h with
    | key h => exact h.dot hdot
  exact ⟨.cons (.same _) (.last hblurred), .cons (.same _) (.cons hblurred (.nil _))⟩

/-! ### All differences -/

/-- **Which differences can be singled out.**  Take a difference of two candidates, found without
rules and below the root.  Some text is read as a rule that matches it and no other of their
differences just when none of the others is confused with it, or none is confused below it.  If all
keys of its path can be written as literals, there is such a text. -/
theorem judgeBy_singledOut (hd : d ∈ (judgeBy [] delete create).differences)
    (hroot : d.path ≠ []) :
    (SingledOut delete create d ↔
      (∀ e ∈ (judgeBy [] delete create).differences, e ≠ d → ¬ Confused d.path e.path) ∨
      (∀ e ∈ (judgeBy [] delete create).differences, e ≠ d → ¬ ConfusedBelow d.path e.path)) ∧
    ((∀ name, .key name ∈ d.path → Writable name) → InMemory d.path →
      SingledOut delete create d) := by
  refine ⟨singledOut_iff hroot, fun hkeys hmemory => (singledOut_iff hroot).2 (.inr ?_)⟩
  have hexpressible : ∀ s ∈ d.path, Expressible s := by
    intro s hs
    cases s with
    | key name => exact .key (hkeys name hs)
    | index i => exact .index (hmemory i hs)
  exact fun e he hne => Ignore.not_confusedBelow_of_parts hexpressible (parts_of_ne hd he hne)

/-- The only label can be singled out though its key has a dot in it. -/
theorem judgeBy_singledOut_label :
    relabelled "a.b" ∈ relabelling ["a.b"] ∧ (relabelled "a.b").path ≠ [] ∧
      SingledOut (labelled .delete "t.old" "1" ["a.b"]) (labelled .create "t.new" "2" ["a.b"])
        (relabelled "a.b") := by
  have hmem : relabelled "a.b" ∈ relabelling ["a.b"] := relabelled_mem (List.mem_singleton_self _)
  have hroot : (relabelled "a.b").path ≠ [] := List.cons_ne_nil _ _
  have hlength : (relabelling ["a.b"]).length = 1 := by decide +kernel
  obtain ⟨x, hx⟩ := List.length_eq_one_iff.1 hlength
  have hother : ∀ e ∈ relabelling ["a.b"], e = relabelled "a.b" := fun e he =>
    (List.mem_singleton.1 (hx ▸ he)).trans (List.mem_singleton.1 (hx ▸ hmem)).symm
  exact ⟨hmem, hroot, (judgeBy_singledOut hmem hroot).1.2 (.inl fun e he hne =>
    absurd (hother e he) hne)⟩

/-- Not every difference can be singled out: of two labels with dots in their keys neither can. -/
theorem not_judgeBy_singledOut :
    ¬ ∀ (delete create : Candidate) (d : Difference), delete.type = create.type →
      d ∈ (judgeBy [] delete create).differences → d.path ≠ [] → SingledOut delete create d := by
  intro h
  have hmem : relabelled "c.d" ∈ relabelling ["a.b", "c.d"] := relabelled_mem (by simp)
  have hne : relabelled "c.d" ≠ relabelled "a.b" := fun e => by
    have hpath := congrArg Difference.path e
    simp [relabelled] at hpath
  have hdot : '.' ∈ "a.b".toList := by decide
  obtain ⟨hconfused, hbelow⟩ := relabelled_confused hdot "c.d"
  rcases (singledOut_iff (List.cons_ne_nil _ _)).1 <|
      h (labelled .delete "t.old" "1" ["a.b", "c.d"]) (labelled .create "t.new" "2" ["a.b", "c.d"])
        (relabelled "a.b") rfl (relabelled_mem (by simp)) (List.cons_ne_nil _ _) with hnone | hnone
  · exact hnone _ hmem hne hconfused
  · exact hnone _ hmem hne hbelow

end ResourceMoves.Matching
