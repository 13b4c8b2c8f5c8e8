import ResourceMoves.Proofs.Ignore.Grammar
import ResourceMoves.Proofs.Number.Word

/-!
# Ignore rules — matching position by position

Matching goes down a pattern and a path together.  What it comes to is a condition on lengths and
single positions (`Fits`): with the `**` at the end of the pattern taken off (`front`), the path has
just as many segments as there are steps left, or at least as many if there was a `**`, and each
step takes the segment in its place (`Step.Takes`).

**A rule matches by position** (`matches_positional`).  That holds of the rules that are read, where
`**` can only be the last step.  A pattern that is put together otherwise is cut off at its first
`**` (`covers_append_rest`).
-/

namespace ResourceMoves.Ignore

open ResourceMoves.Attribute (Segment Path)
open ResourceMoves.Number (SpellsWord)

variable {t : String} {step : Step} {steps : List Step} {s : Segment} {p : Path}

/-! ### One step -/

/-- The step of a pattern takes the segment of a path: any segment if it is a `*`, and else the key
that is its text or the index that its text spells. -/
inductive Step.Takes : Step → Segment → Prop
  | any (s : Segment) : Takes .any s
  | key (name : String) : Takes (.literal name) (.key name)
  | index {text : String} {i : Nat} (h : SpellsWord text.toList i) :
      Takes (.literal text) (.index i)

theorem names_iff_takes : names t s ↔ (Step.literal t).Takes s := by
  cases s with
  | key name =>
      rw [names, beq_iff_eq]
      constructor
      · rintro rfl
        exact .key name
      · intro h
        cases h with
        | key => rfl
  | index i =>
      rw [names, beq_iff_eq, Number.word?_eq_some_iff]
      constructor
      · exact .index
      · intro h
        cases h with
        | index h => exact h

/-- A step that is no `**` covers just the paths that begin with a segment it takes. -/
theorem covers_cons_iff (hstep : step ≠ .rest) :
    covers (step :: steps) p ↔ ∃ s q, p = s :: q ∧ step.Takes s ∧ covers steps q := by
  cases step with
  | rest => exact absurd rfl hstep
  | any =>
      cases p with
      | nil => simp [covers]
      | cons s q =>
          rw [covers]
          constructor
          · exact fun h => ⟨s, q, rfl, .any s, h⟩
          · rintro ⟨_, _, ⟨⟩, -, h⟩
            exact h
  | literal t =>
      cases p with
      | nil => simp [covers]
      | cons s q =>
          rw [covers, Bool.and_eq_true, names_iff_takes]
          constructor
          · exact fun h => ⟨s, q, rfl, h⟩
          · rintro ⟨_, _, ⟨⟩, h⟩
            exact h

/-! ### All steps -/

/-- Each step takes the segment in its place, as far as there are both. -/
def TakeAlong (steps : List Step) (p : Path) : Prop :=
  ∀ (i : Nat) (step : Step) (s : Segment), steps[i]? = some step → p[i]? = some s → step.Takes s

theorem takeAlong_nil (p : Path) : TakeAlong [] p := by
  intro i step s h
  cases h

theorem takeAlong_cons_iff :
    TakeAlong (step :: steps) (s :: p) ↔ step.Takes s ∧ TakeAlong steps p := by
  constructor
  · intro h
    exact ⟨h 0 step s rfl rfl, fun i => h (i + 1)⟩
  · rintro ⟨hhead, htail⟩ i
    cases i with
    | zero =>
        rintro _ _ ⟨⟩ ⟨⟩
        exact hhead
    | succ i => exact htail i

/-- Steps without a `**` cover the beginning of a path, position by position, and what follows them
covers what follows it. -/
theorem covers_append_iff {further : List Step} (hsteps : .rest ∉ steps) :
    covers (steps ++ further) p ↔
      steps.length ≤ p.length ∧ TakeAlong steps p ∧ covers further (p.drop steps.length) := by
  induction steps generalizing p with
  | nil => simp [takeAlong_nil]
  | cons step steps ih =>
      obtain ⟨hstep, hsteps⟩ := List.ne_and_not_mem_of_not_mem_cons hsteps
      rw [List.cons_append, covers_cons_iff hstep.symm]
      constructor
      · rintro ⟨s, q, rfl, htakes, hcovers⟩
        obtain ⟨hlength, hall, hfurther⟩ := (ih hsteps).1 hcovers
        exact ⟨Nat.succ_le_succ hlength, takeAlong_cons_iff.2 ⟨htakes, hall⟩, hfurther⟩
      · rintro ⟨hlength, hall, hfurther⟩
        obtain ⟨s, q, rfl⟩ := List.exists_cons_of_length_pos (Nat.lt_of_lt_of_le (by simp) hlength)
        obtain ⟨htakes, hall⟩ := takeAlong_cons_iff.1 hall
        exact ⟨s, q, rfl, htakes,
          (ih hsteps).2 ⟨Nat.le_of_succ_le_succ hlength, hall, hfurther⟩⟩

/-- Steps without a `**` cover the paths of their length, position by position. -/
theorem covers_iff (hsteps : .rest ∉ steps) :
    covers steps p ↔ p.length = steps.length ∧ TakeAlong steps p := by
  have hend : covers [] (p.drop steps.length) ↔ p.length ≤ steps.length := by
    rw [← List.drop_eq_nil_iff]
    cases p.drop steps.length <;> simp [covers]
  have h : covers (steps ++ []) p ↔ _ := covers_append_iff hsteps
  rw [List.append_nil, hend] at h
  rw [h]
  constructor
  · rintro ⟨hle, hall, hge⟩
    exact ⟨Nat.le_antisymm hge hle, hall⟩
  · rintro ⟨hlength, hall⟩
    exact ⟨hlength.ge, hall, hlength.le⟩

/-- Steps without a `**` before a `**` cover the paths that are no shorter, position by position;
what stands after the `**` does not count. -/
theorem covers_append_rest_iff {after : List Step} (hsteps : .rest ∉ steps) :
    covers (steps ++ .rest :: after) p ↔ steps.length ≤ p.length ∧ TakeAlong steps p := by
  rw [covers_append_iff hsteps, covers]
  simp

/-- What follows a `**` does not count, wherever it stands. -/
theorem covers_append_rest (before after : List Step) (p : Path) :
    covers (before ++ .rest :: after) p = covers (before ++ [.rest]) p := by
  induction before generalizing p with
  | nil => rfl
  | cons step before ih =>
      by_cases hstep : step = .rest
      · subst hstep
        rfl
      · rw [Bool.eq_iff_iff, List.cons_append, List.cons_append, covers_cons_iff hstep,
          covers_cons_iff hstep]
        simp only [ih]

/-! ### Rules that are read -/

/-- The steps of a pattern without the `**` at its end, if there is one. -/
def front (pattern : List Step) : List Step :=
  if pattern.getLast? = some .rest then pattern.dropLast else pattern

/-- The path fits the pattern: it has as many segments as the pattern has steps, or at least as many
as stand in front of a `**` at the end, and each step takes the segment in its place. -/
structure Fits (pattern : List Step) (p : Path) : Prop where
  length :
    if pattern.getLast? = some .rest then (front pattern).length ≤ p.length
    else p.length = (front pattern).length
  takes : TakeAlong (front pattern) p

theorem fits_append_rest_iff :
    Fits (steps ++ [.rest]) p ↔ steps.length ≤ p.length ∧ TakeAlong steps p := by
  have hlast : (steps ++ [Step.rest]).getLast? = some .rest := List.getLast?_concat
  have hfront : front (steps ++ [.rest]) = steps := by simp [front]
  constructor
  · rintro ⟨hlength, hall⟩
    rw [if_pos hlast, hfront] at hlength
    exact ⟨hlength, hfront ▸ hall⟩
  · rintro ⟨hlength, hall⟩
    exact ⟨by rwa [if_pos hlast, hfront], hfront.symm ▸ hall⟩

theorem fits_iff_of_getLast?_ne {pattern : List Step} (hlast : pattern.getLast? ≠ some .rest) :
    Fits pattern p ↔ p.length = pattern.length ∧ TakeAlong pattern p := by
  have hfront : front pattern = pattern := if_neg hlast
  constructor
  · rintro ⟨hlength, hall⟩
    rw [if_neg hlast, hfront] at hlength
    exact ⟨hlength, hfront ▸ hall⟩
  · rintro ⟨hlength, hall⟩
    exact ⟨by rwa [if_neg hlast, hfront], hfront.symm ▸ hall⟩

/-- A pattern in which `**` is nowhere but at the end covers just the paths that fit it. -/
theorem covers_iff_fits {pattern : List Step}
    (hlast : ∀ before after, pattern = before ++ .rest :: after → after = []) :
    covers pattern p ↔ Fits pattern p := by
  by_cases hrest : .rest ∈ pattern
  · obtain ⟨steps, after, rfl, hsteps⟩ := List.eq_append_cons_of_mem hrest
    obtain rfl := hlast steps after rfl
    rw [covers_append_rest_iff hsteps, fits_append_rest_iff]
  · have hne : pattern.getLast? ≠ some .rest := fun h => hrest (List.mem_of_getLast? h)
    rw [covers_iff hrest, fits_iff_of_getLast?_ne hne]

theorem Selector.selects_iff {selector : Selector} {type : String} :
    selector.selects type ↔ selector = .any ∨ selector = .exact type := by
  cases selector with
  | any => simp [selects]
  | exact t => simp [selects]

/-- **A rule matches by position.**  A rule that is read matches a type and a path just when its
selector is for all types or for this one, and the path fits its pattern.  Of a pattern with a `**`
in the middle only what stands in front of it counts. -/
theorem matches_positional {text : String} {r : Rule} (h : Rule.ofText? text = .ok r) :
    (∀ type p, r.matches type p ↔
      (r.selector = .any ∨ r.selector = .exact type) ∧ Fits r.pattern p) ∧
    ∀ before after p, covers (before ++ .rest :: after) p = covers (before ++ [.rest]) p := by
  obtain ⟨-, _, _, -, -, hpattern, -⟩ := ofTrimmed?_eq_ok_iff.1 h
  refine ⟨fun type p => ?_, covers_append_rest⟩
  rw [Rule.matches, Bool.and_eq_true, Selector.selects_iff,
    covers_iff_fits fun _ _ => hpattern.rest_last]

/-- A literal with a plus sign and a leading zero takes an index, and `**` also takes nothing. -/
theorem matches_positional_index :
    Rule.ofText? "t.ports.+07.**" =
        .ok ⟨"t.ports.+07.**", .exact "t", [.literal "ports", .literal "+07", .rest]⟩ ∧
      Rule.matches ⟨"t.ports.+07.**", .exact "t", [.literal "ports", .literal "+07", .rest]⟩ "t"
        [.key "ports", .index 7] := by
  have h : Rule.ofText? "t.ports.+07.**" =
      .ok ⟨"t.ports.+07.**", .exact "t", [.literal "ports", .literal "+07", .rest]⟩ := by rfl
  have hword : SpellsWord "+07".toList 7 := Number.word?_eq_some_iff.1 (by rfl)
  refine ⟨h, ((matches_positional h).1 "t" _).2 ⟨.inr rfl, ⟨Nat.le_refl 2, ?_⟩⟩⟩
  exact takeAlong_cons_iff.2 ⟨.key "ports", takeAlong_cons_iff.2 ⟨.index hword, takeAlong_nil _⟩⟩

end ResourceMoves.Ignore
