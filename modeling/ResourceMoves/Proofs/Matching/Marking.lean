import Mathlib.Data.List.Forall2
import ResourceMoves.Matching.Comparison
import ResourceMoves.Proofs.Attribute.Disagreement
import ResourceMoves.Proofs.Ignore.Spelling

/-!
# Matching — what ignore rules do to a comparison

Ignore rules take no part in finding the differences of two candidates: each difference that is
found is marked as ignored or not (`Difference.marked`), and the score is the number of those that
are not.  So of a list of rules a comparison depends on nothing but which of the differences some
rule covers (`judgeBy_congr`), and not on the order of the rules or on rules that cover none.

**More rules make lower scores** (`judgeBy_mono`): the differences stay, none that is ignored comes
back, and what is left to count is what no rule covers.
-/

namespace ResourceMoves

open ResourceMoves.Ignore (Rule ignores)

/-! ### Lists of rules -/

theorem Ignore.ignores_iff {rules : List Rule} {type : String} {p : Attribute.Path} :
    ignores rules type p ↔ ∃ r ∈ rules, r.matches type p :=
  List.any_eq_true

/-! ### Differences -/

namespace Attribute.Difference

/-- The difference, ignored if one of the rules covers it for the type. -/
def marked (rules : List Rule) (type : String) (d : Difference) : Difference :=
  { d with ignored := ignores rules type d.path }

/-- Two marks on the same difference, of which the second ignores it if the first does. -/
structure Eases (d e : Difference) : Prop where
  path    : e.path = d.path
  before  : e.before = d.before
  after   : e.after = d.after
  ignored : d.ignored → e.ignored

theorem marked_eases {rules rules' : List Rule} (h : rules ⊆ rules') (type : String)
    (d : Difference) : Eases (d.marked rules type) (d.marked rules' type) := by
  refine ⟨rfl, rfl, rfl, fun hd => ?_⟩
  obtain ⟨r, hr, hmatches⟩ := Ignore.ignores_iff.1 hd
  exact Ignore.ignores_iff.2 ⟨r, h hr, hmatches⟩

end Attribute.Difference

namespace Matching

open ResourceMoves.Attribute (Difference Segment)
open ResourceMoves.Attribute.Tree (Apart apart_nil_iff apart_cons_iff mem_differences_iff)
open ResourceMoves.Ignore (Plain InMemory plain_of_mem ofText?_ofPath ofPath_matches
  not_ofPath_matches)
open ResourceMoves.Plan (Candidate Side)

variable {rules rules' : List Rule} {delete create : Candidate}

/-! ### Comparisons -/

theorem judgeBy_differences (rules : List Rule) (delete create : Candidate) :
    (judgeBy rules delete create).differences =
      (delete.attributes.diff create.attributes create.unknown).map (·.marked rules create.type) :=
  rfl

/-- A difference is ignored when a rule covers it. -/
theorem ignored_iff {d : Difference} (h : d ∈ (judgeBy rules delete create).differences) :
    d.ignored ↔ ∃ r ∈ rules, r.matches create.type d.path := by
  rw [judgeBy_differences, List.mem_map] at h
  obtain ⟨d, -, rfl⟩ := h
  exact Ignore.ignores_iff

/-- The score is the number of differences that are not ignored. -/
theorem score_eq_countP (rules : List Rule) (delete create : Candidate) :
    (judgeBy rules delete create).score =
      (judgeBy rules delete create).differences.countP fun d => !d.ignored :=
  List.countP_eq_length_filter.symm

/-- Rules that cover the same of the differences compare alike. -/
theorem judgeBy_congr (h : ∀ d ∈ delete.attributes.diff create.attributes create.unknown,
      ignores rules create.type d.path = ignores rules' create.type d.path) :
    judgeBy rules delete create = judgeBy rules' delete create :=
  congrArg Findings.ofDifferences <| List.map_congr_left fun d hd => by rw [h d hd]

/-- Differences that are marked otherwise, each ignored if it was, leave no more to count. -/
theorem countP_le_of_eases {ds es : List Difference} (h : List.Forall₂ Difference.Eases ds es) :
    (es.countP fun d => !d.ignored) ≤ ds.countP fun d => !d.ignored := by
  induction h with
  | nil => exact Nat.le_refl 0
  | @cons d e ds es hde _ ih =>
      rw [List.countP_cons, List.countP_cons]
      refine Nat.add_le_add ih ?_
      cases hd : d.ignored with
      | true => simp [hde.ignored hd]
      | false => split <;> simp

/-! ### Two hosts -/

/-- A candidate of the type `t` that has a list of one port and a name among its tags. -/
def host (side : Side) (address port name : String) : Candidate where
  address    := address
  type       := "t"
  provider   := ""
  side       := side
  attributes := .map [("ports", .list [.leaf (.text port)]),
    ("tags", .map [("name", .leaf (.text name))])]
  unknown    := none

/-- The host that is destroyed. -/
def oldHost : Candidate := host .delete "t.old" "80" "x"

/-- The host that is created, with another port and another name. -/
def newHost : Candidate := host .create "t.new" "81" "y"

/-- The rule for the name among the tags of a host. -/
def nameRule : Rule := ⟨"t.tags.name", .exact "t", [.literal "tags", .literal "name"]⟩

/-- The rule for all that a host has. -/
def hostRule : Rule := ⟨"t", .exact "t", [.rest]⟩

/-! ### More rules -/

/-- **More rules make lower scores.**  With more rules two candidates have the same differences in
the same order, those that were ignored are ignored, and the score is not higher.  For any rules the
score is the number of differences that none of them covers for the created type, and so at most the
number of all. -/
theorem judgeBy_mono (h : rules ⊆ rules') (delete create : Candidate) :
    List.Forall₂ Difference.Eases (judgeBy rules delete create).differences
      (judgeBy rules' delete create).differences ∧
    (judgeBy rules' delete create).score ≤ (judgeBy rules delete create).score ∧
    ∀ given : List Rule,
      (judgeBy given delete create).score =
        ((judgeBy given delete create).differences.countP fun d =>
          ∀ r ∈ given, r.matches create.type d.path = false) ∧
      (judgeBy given delete create).score ≤ (judgeBy given delete create).differences.length := by
  have heases : List.Forall₂ Difference.Eases (judgeBy rules delete create).differences
      (judgeBy rules' delete create).differences := by
    rw [judgeBy_differences, judgeBy_differences, List.forall₂_map_left_iff,
      List.forall₂_map_right_iff, List.forall₂_same]
    exact fun d _ => d.marked_eases h create.type
  refine ⟨heases, ?_, fun given => ⟨?_, ?_⟩⟩
  · rw [score_eq_countP, score_eq_countP]
    exact countP_le_of_eases heases
  · rw [score_eq_countP]
    refine List.countP_congr fun d hd => ?_
    simp [← Bool.not_eq_true, ignored_iff hd]
  · rw [score_eq_countP]
    exact List.countP_le_length

/-- With a rule for the name and one for all, no difference is left of two. -/
theorem judgeBy_mono_hosts :
    [nameRule] ⊆ [hostRule, nameRule] ∧
      List.Forall₂ Difference.Eases (judgeBy [nameRule] oldHost newHost).differences
        (judgeBy [hostRule, nameRule] oldHost newHost).differences ∧
      (judgeBy [nameRule] oldHost newHost).score = 1 ∧
      (judgeBy [hostRule, nameRule] oldHost newHost).score = 0 := by
  have h : [nameRule] ⊆ [hostRule, nameRule] := by decide
  exact ⟨h, (judgeBy_mono h _ _).1, by decide +kernel, by decide +kernel⟩

/-! ### A rule for one difference -/

/-- A single rule leaves the differences that it does not match as no rules do. -/
theorem marked_singleton_of_not_matches {r : Rule} {type : String} {d : Difference}
    (h : r.matches type d.path = false) : d.marked [r] type = d.marked [] type := by
  simp [Difference.marked, ignores, h]

theorem marked_singleton_of_matches {r : Rule} {type : String} {d : Difference}
    (h : r.matches type d.path) :
    d.marked [r] type = { d.marked [] type with ignored := true } := by
  simp [Difference.marked, ignores, h]

/-- Where a rule matches one of the differences alone, it ignores that one. -/
theorem judgeBy_singleton {r : Rule} {d : Difference} {before after : List Difference}
    (hdiff : delete.attributes.diff create.attributes create.unknown = before ++ d :: after)
    (hd : r.matches create.type d.path)
    (hothers : ∀ e ∈ before ++ after, r.matches create.type e.path = false) :
    (judgeBy [r] delete create).differences = before.map (·.marked [] create.type) ++
      { d.marked [] create.type with ignored := true } ::
        after.map (·.marked [] create.type) := by
  obtain ⟨hbefore, hafter⟩ := List.forall_mem_append.1 hothers
  rw [judgeBy_differences, hdiff, List.map_append, List.map_cons, marked_singleton_of_matches hd,
    List.map_congr_left fun e he => marked_singleton_of_not_matches (hbefore e he),
    List.map_congr_left fun e he => marked_singleton_of_not_matches (hafter e he)]

/-- With one more difference ignored there is one less to count. -/
theorem countP_ignore_one {d : Difference} (hd : d.ignored = false)
    (before after : List Difference) :
    ((before ++ { d with ignored := true } :: after).countP fun e => !e.ignored) + 1 =
      (before ++ d :: after).countP fun e => !e.ignored := by
  rw [List.countP_append, List.countP_append, List.countP_cons_of_neg (by simp),
    List.countP_cons_of_pos (by simp [hd]), Nat.add_assoc]

/-- The path of a difference parts from those of the differences before it and after it. -/
theorem parts_of_diff_eq {d e : Difference} {before after : List Difference}
    (hdiff : delete.attributes.diff create.attributes create.unknown = before ++ d :: after)
    (he : e ∈ before ++ after) :
    Parts Segment.Less d.path e.path ∨ Parts Segment.Less e.path d.path := by
  have hparts : (before ++ d :: after).Pairwise fun d e => Parts Segment.Less d.path e.path :=
    hdiff ▸ Attribute.Tree.differences_pairwise _ _ _
  obtain ⟨-, hafter, hbefore⟩ := List.pairwise_append.1 hparts
  rcases List.mem_append.1 he with he | he
  · exact .inr (hbefore e he d List.mem_cons_self)
  · exact .inl ((List.pairwise_cons.1 hafter).1 e he)

/-- **A rule copied from the report** hits its difference and nothing else.  Let a difference that
is found without rules lie below the root, on a path of plain keys, and let the type be plain.  Then
type and path, as they are shown, are read as a rule, and with that rule alone the difference is
ignored, all others stay as they were, and the score is one lower. -/
theorem judgeBy_copied {d : Difference} (hd : d ∈ (judgeBy [] delete create).differences)
    (hroot : d.path ≠ []) (htype : Plain create.type)
    (hkeys : ∀ name, .key name ∈ d.path → Plain name) (hmemory : InMemory d.path) :
    ∃ r, Rule.ofText? (create.type ++ "." ++ d.path.display) = .ok r ∧
      (∃ before after, (judgeBy [] delete create).differences = before ++ d :: after ∧
        (judgeBy [r] delete create).differences = before ++ { d with ignored := true } :: after ∧
        d.ignored = false ∧ ∀ e ∈ before ++ after, e.ignored = false) ∧
      (judgeBy [r] delete create).score + 1 = (judgeBy [] delete create).score := by
  obtain ⟨x, hx, rfl⟩ := List.mem_map.1 (judgeBy_differences [] delete create ▸ hd)
  obtain ⟨before, after, hdiff⟩ := List.append_of_mem hx
  have hnone : (judgeBy [] delete create).differences = before.map (·.marked [] create.type) ++
      x.marked [] create.type :: after.map (·.marked [] create.type) := by
    rw [judgeBy_differences, hdiff, List.map_append, List.map_cons]
  have hone := judgeBy_singleton hdiff (ofPath_matches create.type hmemory) fun e he =>
    not_ofPath_matches (parts_of_diff_eq hdiff he) create.type
  refine ⟨.ofPath create.type x.path,
    ofText?_ofPath htype (fun s hs => plain_of_mem hkeys hs) hroot,
    ⟨_, _, hnone, hone, rfl, fun e he => ?_⟩, ?_⟩
  · -- none is ignored without rules
    rw [← List.map_append] at he
    obtain ⟨z, -, rfl⟩ := List.mem_map.1 he
    rfl
  · rw [score_eq_countP, score_eq_countP, hone, hnone]
    exact countP_ignore_one rfl _ _

/-- The first port of a list is singled out by its index. -/
theorem judgeBy_copied_port :
    ∃ d ∈ (judgeBy [] oldHost newHost).differences, d.path = [.key "ports", .index 0] ∧
      ∃ r, Rule.ofText? "t.ports.0" = .ok r ∧
        (judgeBy [r] oldHost newHost).score + 1 = (judgeBy [] oldHost newHost).score := by
  have hapart : Apart (some oldHost.attributes) (some newHost.attributes)
      [.key "ports", .index 0] :=
    apart_cons_iff.2 ⟨_, _, rfl, rfl, .map _ _, apart_cons_iff.2 ⟨_, _, rfl, rfl, .list _ _,
      apart_nil_iff.2 ⟨.inl rfl, by rintro _ _ ⟨⟩ ⟨⟩; exact ⟨nofun, by decide⟩⟩⟩⟩
  have hd : ⟨[.key "ports", .index 0], some (.leaf (.text "80")), some (.leaf (.text "81")),
      false⟩ ∈ (judgeBy [] oldHost newHost).differences :=
    List.mem_map.2 ⟨_, mem_differences_iff.2 ⟨hapart, rfl, rfl, rfl⟩, rfl⟩
  have htext : "t" ++ "." ++ Attribute.Path.display [.key "ports", .index 0] = "t.ports.0" := by
    decide +kernel
  have htype : Plain newHost.type := by decide
  have hports : Plain "ports" := by decide
  obtain ⟨r, hr, -, hscore⟩ := judgeBy_copied hd (by simp) htype (by simp [hports])
    (by simp [InMemory])
  exact ⟨_, hd, rfl, r, htext ▸ hr, hscore⟩

end Matching

end ResourceMoves
