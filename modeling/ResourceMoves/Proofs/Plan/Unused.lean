import ResourceMoves.Proofs.Matching.Marking
import ResourceMoves.Proofs.Plan.Candidates

/-!
# Plan — rules that do nothing

After an analysis the rules that ignored none of the differences are reported.  What they have in
common can be said without the analysis: they match no difference of any two candidates of one type
(`Idle`).  A rule that matches a difference cannot hide from that, since a difference that is matched
is ignored, whatever the other rules are (`mem_unusedRules_iff_idle`).

An analysis depends on the other rules alone, and on them as a set (`analyse_congr`): rules are asked
about pairs of candidates of one type, and all that counts is whether some rule matches.  **So the
report is exact, and its rules can go** (`analyse_unused`), with the rest in any order and any
number.
-/

namespace ResourceMoves

open ResourceMoves.Ignore (Rule)
open ResourceMoves.Matching (Judge Watch judgeBy)

variable {p : Plan} {watch : Watch} {rules rules' : List Rule} {r : Rule} {m : Matching}

/-- The rules that are reported are those that match no ignored difference. -/
theorem Matching.mem_unusedRules_iff : r ∈ m.unusedRules rules ↔ r ∈ rules ∧
    ∀ c ∈ m.comparisons, ∀ x ∈ c.differences, x.ignored →
      r.matches c.create.type x.path = false := by
  rw [unusedRules, Ignore.unused, List.mem_filter, Bool.not_eq_true', List.any_eq_false]
  simp only [List.mem_flatMap, List.mem_map, List.mem_filter, Bool.not_eq_true]
  refine and_congr_right fun _ => ⟨fun h c hc x hx hignored => ?_, ?_⟩
  · exact h _ ⟨c, hc, x, ⟨hx, hignored⟩, rfl⟩
  · rintro h _ ⟨c, hc, x, ⟨hx, hignored⟩, rfl⟩
    exact h c hc x hx hignored

namespace Plan

/-- The rule matches no difference, ignored or not, of a deleted and a created candidate of one
type. -/
def Idle (p : Plan) (r : Rule) : Prop :=
  ∀ d ∈ p.candidates.deletes, ∀ c ∈ p.candidates.creates, d.type = c.type →
    ∀ x ∈ d.attributes.diff c.attributes c.unknown, r.matches c.type x.path = false

/-- A rule of an analysis is reported when it is idle. -/
theorem mem_unusedRules_iff_idle (h : p.analyse watch rules = .ok m) (hr : r ∈ rules) :
    r ∈ m.unusedRules rules ↔ p.Idle r := by
  obtain ⟨-, -, hsolve⟩ := analyse_eq_ok_iff.1 h
  obtain ⟨-, -, rfl⟩ := Matching.solve_eq_ok_iff.1 hsolve
  rw [Matching.mem_unusedRules_iff, and_iff_right hr]
  constructor
  · intro hunused d hd c hc ht x hx
    by_contra hmatches
    -- `x` is matched, so it is ignored in the comparison of `d` and `c`
    rw [Bool.not_eq_false] at hmatches
    have hmem : x.marked rules c.type ∈ (judgeBy rules d c).differences :=
      List.mem_map_of_mem hx
    have hnot := hunused _ (Judge.mem_comparisons.2 ⟨d, hd, c, hc, ht, rfl⟩) _ hmem
      ((Matching.ignored_iff hmem).2 ⟨r, hr, hmatches⟩)
    exact Bool.false_ne_true (hnot.symm.trans hmatches)
  · intro hidle y hy x hx _
    obtain ⟨d, hd, c, hc, ht, rfl⟩ := Judge.mem_comparisons.1 hy
    obtain ⟨z, hz, rfl⟩ := List.mem_map.1 hx
    exact hidle d hd c hc ht z hz

/-- Rules of which the same are not idle give the same analysis. -/
theorem analyse_congr (h : ∀ r, ¬ p.Idle r → (r ∈ rules ↔ r ∈ rules')) :
    p.analyse watch rules = p.analyse watch rules' := by
  have hjudge : ∀ d ∈ p.candidates.deletes, ∀ c ∈ p.candidates.creates, d.type = c.type →
      judgeBy rules d c = judgeBy rules' d c := by
    refine fun d hd c hc ht => Matching.judgeBy_congr fun x hx => ?_
    have hmem : ∀ r : Rule, r.matches c.type x.path → (r ∈ rules ↔ r ∈ rules') :=
      fun r hmatches => h r fun hidle => by simp [hidle d hd c hc ht x hx] at hmatches
    rw [Bool.eq_iff_iff, Ignore.ignores_iff, Ignore.ignores_iff]
    constructor
    · rintro ⟨r, hr, hmatches⟩
      exact ⟨r, (hmem r hmatches).1 hr, hmatches⟩
    · rintro ⟨r, hr, hmatches⟩
      exact ⟨r, (hmem r hmatches).2 hr, hmatches⟩
  have hsolve : Matching.solve watch _ _ _ = _ := Matching.solve_congr hjudge
  rw [analyse, analyse, extract]
  cases p.defect? with
  | none => simp only [bind, Except.bind, hsolve]
  | some d => rfl

/-- **The rules that are reported as unused** are those that match no difference of any two
candidates of one type, ignored or not.  The analysis is the same without them, or without some of
them, and with the rules in another order or some of them repeated. -/
theorem analyse_unused (h : p.analyse watch rules = .ok m) :
    (∀ r ∈ rules, r ∈ m.unusedRules rules ↔ p.Idle r) ∧
    (∀ kept, kept.Sublist rules → (∀ r ∈ rules, r ∉ kept → r ∈ m.unusedRules rules) →
      p.analyse watch kept = .ok m) ∧
    ∀ rules', (∀ r, r ∈ rules' ↔ r ∈ rules) → p.analyse watch rules' = .ok m := by
  refine ⟨fun r hr => mem_unusedRules_iff_idle h hr, fun kept hkept hgone => ?_,
    fun rules' hrules => ?_⟩
  · rw [← h]
    refine analyse_congr fun r hr => ⟨fun hmem => hkept.subset hmem, fun hmem => ?_⟩
    by_contra hnot
    exact hr ((mem_unusedRules_iff_idle h hmem).1 (hgone r hmem hnot))
  · rw [← h]
    exact analyse_congr fun r _ => hrules r

/-- The rule for the attribute that tells `t.a` from `t.c`. -/
def keyRule : Rule := ⟨"t.k", .exact "t", [.literal "k"]⟩

/-- A rule for an attribute that no resource has. -/
def otherRule : Rule := ⟨"t.other", .exact "t", [.literal "other"]⟩

/-- Of two rules one is reported; without it, or with the other one twice, nothing changes. -/
theorem analyse_unused_renamed :
    ∃ m, renamed.analyse .never [otherRule, keyRule] = .ok m ∧
      otherRule ∈ m.unusedRules [otherRule, keyRule] ∧ ¬ renamed.Idle keyRule ∧
      renamed.analyse .never [keyRule] = .ok m ∧
      renamed.analyse .never [keyRule, otherRule, keyRule] = .ok m := by
  have h : renamed.analyse .never [otherRule, keyRule] = .ok
      ((judgeBy [otherRule, keyRule]).matching renamed.candidates.deletes
        renamed.candidates.creates) :=
    analyse_eq_ok_iff.2 ⟨rfl, by decide, Matching.solve_never (by decide) (by decide)⟩
  have hunused : Matching.unusedRules [otherRule, keyRule] ((judgeBy [otherRule, keyRule]).matching
      renamed.candidates.deletes renamed.candidates.creates) = [otherRule] := by
    decide +kernel
  obtain ⟨hidle, hkept, hrules⟩ := analyse_unused h
  refine ⟨_, h, ?_, fun hkey => ?_, hkept _ (List.sublist_cons_self _ _) ?_, hrules _ ?_⟩
  · simp [hunused]
  · have hmem := (hidle keyRule (by simp)).2 hkey
    rw [hunused] at hmem
    exact absurd hmem (by decide)
  · simp [hunused]
  · simp [or_comm]

end Plan

end ResourceMoves
