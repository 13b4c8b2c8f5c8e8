import ResourceMoves.Proofs.Ignore.Position
import ResourceMoves.Proofs.Ignore.Spelling
import ResourceMoves.Proofs.Number.Loose

/-!
# Ignore rules — rules of literals

A rule whose pattern has literals only names a single path, by its text after the first dot
(`Rule.pathText`).  But a literal takes a key of its text and also an index that its text spells, and
an index is spelt by more texts than the one it is shown as: by those with a plus sign or with zeros
in front (`Number.Loose`).

**A path that such a rule covers is shown as the rule's text just when no index stands in the place
of a loose number** (`display_of_matches`), so all paths are just when the rule has no loose number.
Segment by segment this is `display_eq_iff_of_takes`; and as none of the segments is shown with a dot
in it, the texts of whole paths come apart at their dots (`intercalate_dot_inj`).
-/

namespace ResourceMoves.Ignore

open ResourceMoves.Attribute (Segment Path)
open ResourceMoves.Number (SpellsWord Loose)

variable {text : String} {step : Step} {steps : List Step} {s : Segment} {p : Path} {r : Rule}
  {xs ys : List (List Char)}

/-- What the text of a rule says after its first dot. -/
def Rule.pathText (r : Rule) : String := .ofList ((r.text.toList.dropWhile (· != '.')).drop 1)

/-- All steps are literals. -/
def AllLiteral (steps : List Step) : Prop := ∀ step ∈ steps, ∃ text, step = .literal text

/-- No index stands in the place of a loose number. -/
def Tight (steps : List Step) (p : Path) : Prop :=
  ∀ text i, (.literal text, .index i) ∈ steps.zip p → ¬ Loose text.toList

/-! ### What literals take -/

theorem AllLiteral.rest_not_mem (h : AllLiteral steps) : .rest ∉ steps := fun hrest => by
  obtain ⟨_, ⟨⟩⟩ := h _ hrest

/-- Each segment of a path that is covered is taken by a step. -/
theorem exists_takes_of_covers (hsteps : .rest ∉ steps) (h : covers steps p) (hs : s ∈ p) :
    ∃ step ∈ steps, step.Takes s := by
  obtain ⟨hlength, htakes⟩ := (covers_iff hsteps).1 h
  obtain ⟨i, hi⟩ := List.mem_iff_getElem?.1 hs
  have hlt : i < steps.length := hlength ▸ (List.getElem?_eq_some_iff.1 hi).1
  exact ⟨steps[i], List.getElem_mem hlt, htakes i _ s (List.getElem?_eq_getElem hlt) hi⟩

/-- Steps cover the segments that they take, one each. -/
theorem covers_map {f : Step → Segment} (h : ∀ step ∈ steps, step ≠ .rest ∧ step.Takes (f step)) :
    covers steps (steps.map f) := by
  induction steps with
  | nil => rfl
  | cons step steps ih =>
      obtain ⟨⟨hne, htakes⟩, h⟩ := List.forall_mem_cons.1 h
      exact (covers_cons_iff hne).2 ⟨f step, steps.map f, rfl, htakes, ih h⟩

/-- What a literal takes is shown as that literal, unless it is an index and the literal is loose. -/
theorem display_eq_iff_of_takes (h : (Step.literal text).Takes s) :
    s.display = text ↔ ∀ i, s = .index i → ¬ Loose text.toList := by
  cases h with
  | key name => simp [Segment.display]
  | @index _ i h =>
      have hshown : (Segment.index i).display = text ↔ text.toList = Number.digits i := by
        rw [Segment.display, Number.text, ← String.toList_inj, String.toList_ofList, eq_comm]
      rw [hshown, h.eq_digits_iff]
      simp

theorem tight_cons_iff : Tight (.literal text :: steps) (s :: p) ↔
    (∀ i, s = .index i → ¬ Loose text.toList) ∧ Tight steps p := by
  simp only [Tight, List.zip_cons_cons, List.mem_cons, Prod.mk.injEq, Step.literal.injEq]
  constructor
  · intro h
    exact ⟨fun i hi => h text i (.inl ⟨rfl, hi.symm⟩), fun t i ht => h t i (.inr ht)⟩
  · rintro ⟨hhead, htail⟩ t i (⟨rfl, hi⟩ | ht)
    · exact hhead i hi.symm
    · exact htail t i ht

/-- **A path that literals cover is shown segment by segment as these literals**, just when no index
stands in the place of a loose one. -/
theorem map_display_eq_iff (hsteps : AllLiteral steps) (h : covers steps p) :
    p.map (·.display.toList) = steps.map Step.written ↔ Tight steps p := by
  induction steps generalizing p with
  | nil =>
      cases p with
      | nil => simp [Tight]
      | cons => exact absurd h Bool.false_ne_true
  | cons step steps ih =>
      obtain ⟨⟨text, rfl⟩, htail⟩ := List.forall_mem_cons.1 hsteps
      have hne : Step.literal text ≠ .rest := nofun
      obtain ⟨s, q, rfl, htakes, h⟩ := (covers_cons_iff hne).1 h
      rw [List.map_cons, List.map_cons, List.cons_eq_cons, ih htail h, tight_cons_iff,
        ← display_eq_iff_of_takes htakes, Step.written, String.toList_inj]

/-! ### The text of a rule -/

theorem intercalate_dot_inj (hx : ∀ x ∈ xs, '.' ∉ x) (hy : ∀ y ∈ ys, '.' ∉ y) (hxs : xs ≠ [])
    (hys : ys ≠ []) : ['.'].intercalate xs = ['.'].intercalate ys ↔ xs = ys := by
  constructor
  · intro h
    rw [← List.splitOn_intercalate '.' hx hxs, h, List.splitOn_intercalate '.' hy hys]
  · exact congrArg _

/-- The pattern of a rule that is read, if it has literals only, is what its text says after the
first dot. -/
theorem pathText_of_ofText? (h : Rule.ofText? text = .ok r) (hlit : AllLiteral r.pattern) :
    r.pathText.toList = ['.'].intercalate (r.pattern.map Step.written) ∧ r.pattern ≠ [] ∧
      ∀ part ∈ r.pattern.map Step.written, '.' ∉ part := by
  obtain ⟨-, first, further, hparts, -, hpattern, htext⟩ := ofTrimmed?_eq_ok_iff.1 h
  have hdots : ∀ part ∈ first :: further, '.' ∉ part := hparts ▸ fun _ => Text.not_mem_of_mem_splitOn
  obtain ⟨hfirst, hfurther⟩ := List.forall_mem_cons.1 hdots
  have hsplit : ['.'].intercalate (first :: further) = Text.trim text.toList :=
    hparts ▸ List.intercalate_splitOn '.'
  generalize r.pattern = pattern at hpattern hlit ⊢
  cases hpattern with
  | all => exact absurd (List.mem_singleton_self _) hlit.rest_not_mem
  | steps hne hspells =>
      rw [hspells.map_written]
      refine ⟨?_, fun e => hne ?_, hfurther⟩
      · obtain ⟨part, ps, rfl⟩ := List.exists_cons_of_ne_nil hne
        have hdrop : ∀ c ∈ first, (c != '.') = true := fun c hc =>
          bne_iff_ne.2 fun e => hfirst (e ▸ hc)
        rw [Rule.pathText, htext, String.toList_ofList, String.toList_ofList, ← hsplit,
          List.intercalate_cons_cons, List.append_assoc, List.dropWhile_append_of_pos hdrop]
        rfl
      · rw [← hspells.map_written, e]
        rfl

theorem covers_ne_nil (hne : steps ≠ []) (hsteps : .rest ∉ steps) (h : covers steps p) : p ≠ [] := by
  rintro rfl
  exact hne (List.length_eq_zero_iff.1 ((covers_iff hsteps).1 h).1.symm)

/-- **What is shown of a path that a rule of literals covers.** -/
theorem display_eq_pathText_iff (h : Rule.ofText? text = .ok r) (hlit : AllLiteral r.pattern)
    (hp : covers r.pattern p) : p.display = r.pathText ↔ Tight r.pattern p := by
  obtain ⟨htext, hne, hdots⟩ := pathText_of_ofText? h hlit
  have hpdots : ∀ part ∈ p.map (·.display.toList), '.' ∉ part := by
    intro part hpart
    obtain ⟨s, hs, rfl⟩ := List.mem_map.1 hpart
    obtain ⟨step, hstep, htakes⟩ := exists_takes_of_covers hlit.rest_not_mem hp hs
    obtain ⟨t, rfl⟩ := hlit step hstep
    cases htakes with
    | key => exact hdots _ (List.mem_map_of_mem hstep)
    | index => exact (plain_index _).dot_not_mem
  have hpne := covers_ne_nil hne hlit.rest_not_mem hp
  rw [← String.toList_inj, display_toList hpne, htext,
    intercalate_dot_inj hpdots hdots (by simpa using hpne) (by simpa using hne),
    map_display_eq_iff hlit hp]

/-! ### Rules of literals -/

/-- A segment for a step: the index, if the step is the given literal, or the key of its text. -/
def Step.sample (text : String) (i : Nat) (step : Step) : Segment :=
  if step = .literal text then .index i else .key (.ofList step.written)

theorem takes_sample {i : Nat} (h : SpellsWord text.toList i) (hstep : ∃ t, step = .literal t) :
    step.Takes (step.sample text i) := by
  obtain ⟨t, rfl⟩ := hstep
  by_cases ht : t = text
  · subst ht
    rw [Step.sample, if_pos rfl]
    exact .index h
  · rw [Step.sample, if_neg (by simpa using ht), Step.written, String.ofList_toList]
    exact .key t

theorem Selector.exists_selects (selector : Selector) : ∃ type, selector.selects type := by
  cases selector with
  | any => exact ⟨"", rfl⟩
  | exact type => exact ⟨type, beq_self_eq_true type⟩

/-- **A rule of literals covers the path that it spells, up to loose numbers.** -/
theorem display_of_matches {text : String} {r : Rule} (h : Rule.ofText? text = .ok r)
    (hlit : AllLiteral r.pattern) :
    (∀ type p, r.matches type p → (p.display = r.pathText ↔ Tight r.pattern p)) ∧
    ((∀ type p, r.matches type p → p.display = r.pathText) ↔
      ∀ t, .literal t ∈ r.pattern → ¬ Loose t.toList) := by
  have hshown : ∀ type p, r.matches type p → (p.display = r.pathText ↔ Tight r.pattern p) :=
    fun type p hp => display_eq_pathText_iff h hlit (Bool.and_eq_true_iff.1 hp).2
  refine ⟨hshown, fun hall t ht hloose => ?_, fun hnone type p hp => ?_⟩
  · obtain ⟨i, hi⟩ := hloose.exists_spellsWord
    obtain ⟨type, htype⟩ := r.selector.exists_selects
    have hcovers : covers r.pattern (r.pattern.map (Step.sample t i)) :=
      covers_map fun step hstep =>
        ⟨fun e => hlit.rest_not_mem (e ▸ hstep), takes_sample hi (hlit step hstep)⟩
    have hmatches : r.matches type (r.pattern.map (Step.sample t i)) :=
      Bool.and_eq_true_iff.2 ⟨htype, hcovers⟩
    refine (hshown _ _ hmatches).1 (hall _ _ hmatches) t i ?_ hloose
    rw [← List.map_prod_left_eq_zip, List.mem_map]
    exact ⟨.literal t, ht, by simp [Step.sample]⟩
  · exact (hshown type p hp).2 fun t i hzip => hnone t (List.of_mem_zip hzip).1

/-- A rule with a zero too many. -/
def zeroRule : Rule := ⟨"t.ports.07", .exact "t", [.literal "ports", .literal "07"]⟩

theorem allLiteral_zeroRule : AllLiteral zeroRule.pattern :=
  List.forall_mem_cons.2 ⟨⟨_, rfl⟩, List.forall_mem_singleton.2 ⟨_, rfl⟩⟩

theorem not_tight_zeroRule : ¬ Tight zeroRule.pattern [.key "ports", .index 7] := by
  have hword : Number.DigitsOfWord ['0', '7'] 7 := Number.digitsOfWord_iff.2 (by rfl)
  exact fun h => h "07" 7 (by decide) (.padded (List.cons_ne_nil _ _) hword)

/-- The rule covers the path with the key that it spells, and one that it does not spell. -/
theorem display_of_matches_zeroRule :
    Rule.ofText? " t.ports.07" = .ok zeroRule ∧ AllLiteral zeroRule.pattern ∧
      Path.display [.key "ports", .key "07"] = zeroRule.pathText ∧
      Path.display [.key "ports", .index 7] ≠ zeroRule.pathText := by
  have h : Rule.ofText? " t.ports.07" = .ok zeroRule := by rfl
  obtain ⟨hshown, -⟩ := display_of_matches h allLiteral_zeroRule
  refine ⟨h, allLiteral_zeroRule, (hshown "t" _ (by rfl)).2 ?_, fun heq => ?_⟩
  · intro t i hzip
    simp [zeroRule] at hzip
  · exact not_tight_zeroRule ((hshown "t" _ (by rfl)).1 heq)

/-- Not all that a rule of literals covers is the path that it spells. -/
theorem not_display_of_matches : ¬ ∀ (text : String) (r : Rule), Rule.ofText? text = .ok r →
    AllLiteral r.pattern → ∀ type p, r.matches type p → p.display = r.pathText := by
  intro hall
  have h : Rule.ofText? "t.ports.07" = .ok zeroRule := by rfl
  have hcovers : covers zeroRule.pattern [.key "ports", .index 7] := by rfl
  have heq := hall _ _ h allLiteral_zeroRule "t" [.key "ports", .index 7] (by rfl)
  exact not_tight_zeroRule ((display_eq_pathText_iff h allLiteral_zeroRule hcovers).1 heq)

end ResourceMoves.Ignore
