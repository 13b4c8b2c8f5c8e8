import ResourceMoves.Ignore.Rule
import ResourceMoves.Proofs.Result
import ResourceMoves.Proofs.Text.Lines
import ResourceMoves.Proofs.Text.Trim

/-!
# Ignore rules — their grammar

Which texts are rules (`Grammatical`) and what their parts say, without a look at how they are read:
the first part names a type (`NamesType`), and the further ones spell the steps of a pattern
(`Spells`), the last of which may be `**`.

**Reading accepts just the grammar and loses nothing** (`ofText?_grammatical`).  Reading a part and
the relation agree on every part, so a rule's text is what its selector and its pattern spell
(`render_eq`), and read once more it gives the same rule.  A type without further parts covers all
paths, as does that type followed by `**`, so the text of the one selector and pattern differs from
the text they were read from, but is read alike.
-/

namespace ResourceMoves.Ignore

open ResourceMoves.Text (trim trim_trim trimmed Trimmed)

variable {part first t : List Char} {further ps : List (List Char)} {selector : Selector}
  {steps : List Step} {r : Rule}

/-! ### The grammar -/

/-- The part names the types that the selector is for. -/
inductive NamesType : List Char → Selector → Prop
  | any : NamesType ['*'] .any
  | exact {part : List Char} (hne : part ≠ []) (hstar : '*' ∉ part) :
      NamesType part (.exact (.ofList part))

/-- The parts spell the steps, one each; `**` spells the rest of a path, and nothing follows it. -/
inductive Spells : List (List Char) → List Step → Prop
  | nil : Spells [] []
  | any {ps : List (List Char)} {steps : List Step} (h : Spells ps steps) :
      Spells (['*'] :: ps) (.any :: steps)
  | literal {part : List Char} {ps : List (List Char)} {steps : List Step} (hne : part ≠ [])
      (hstar : '*' ∉ part) (h : Spells ps steps) :
      Spells (part :: ps) (.literal (.ofList part) :: steps)
  | rest : Spells [['*', '*']] [.rest]

/-- The pattern that further parts stand for; none at all stand for the rest of a path. -/
inductive Denotes : List (List Char) → List Step → Prop
  | all : Denotes [] [.rest]
  | steps {ps : List (List Char)} {steps : List Step} (hne : ps ≠ []) (h : Spells ps steps) :
      Denotes ps steps

/-- A text is a rule: it is not empty, its first part is `*` or has no star, and each further part
is `*`, has no star, or is `**` and the last.  No part is empty. -/
def Grammatical (t : List Char) : Prop :=
  t ≠ [] ∧ ∃ first further, t.splitOn '.' = first :: further ∧
    (first = ['*'] ∨ first ≠ [] ∧ '*' ∉ first) ∧
    ∀ before part after, further = before ++ part :: after →
      part ≠ [] ∧ (part = ['*'] ∨ '*' ∉ part ∨ part = ['*', '*'] ∧ after = [])

/-! ### Reading a part -/

theorem selector?_eq_ok_iff : selector? part = .ok selector ↔ NamesType part selector := by
  constructor
  · intro h
    unfold selector? at h
    split at h
    case isTrue => cases h
    case isFalse hne =>
      split at h
      case isTrue hstar =>
        cases h
        exact hstar ▸ .any
      case isFalse =>
        split at h
        case isTrue => cases h
        case isFalse hstar =>
          cases h
          exact .exact (by simpa using hne) (by simpa using hstar)
  · intro h
    cases h with
    | any => rfl
    | exact hne hstar =>
        have hany : part ≠ ['*'] := fun e => hstar (e ▸ List.mem_singleton_self _)
        simp [selector?, hne, hstar, hany]

theorem step?_eq_ok_iff {last : Bool} {step : Step} :
    step? part last = .ok step ↔
      (part = ['*'] ∧ step = .any) ∨
      (part ≠ [] ∧ '*' ∉ part ∧ step = .literal (.ofList part)) ∨
      (part = ['*', '*'] ∧ last = true ∧ step = .rest) := by
  constructor
  · intro h
    unfold step? at h
    split at h
    case isTrue => cases h
    case isFalse hne =>
      split at h
      case isTrue hany =>
        cases h
        exact .inl ⟨hany, rfl⟩
      case isFalse =>
        split at h
        case isTrue hrest =>
          split at h
          case isTrue hlast =>
            cases h
            exact .inr (.inr ⟨hrest, hlast, rfl⟩)
          case isFalse => cases h
        case isFalse =>
          split at h
          case isTrue => cases h
          case isFalse hstar =>
            cases h
            exact .inr (.inl ⟨by simpa using hne, by simpa using hstar, rfl⟩)
  · rintro (⟨rfl, rfl⟩ | ⟨hne, hstar, rfl⟩ | ⟨rfl, rfl, rfl⟩)
    · rfl
    · have hany : part ≠ ['*'] := fun e => hstar (e ▸ List.mem_cons_self)
      have hrest : part ≠ ['*', '*'] := fun e => hstar (e ▸ List.mem_cons_self)
      simp [step?, hne, hstar, hany, hrest]
    · rfl

theorem steps?_cons_eq_ok_iff :
    steps? (part :: ps) = .ok steps ↔ ∃ step rest, step? part ps.isEmpty = .ok step ∧
      steps? ps = .ok rest ∧ step :: rest = steps := by
  rw [steps?, bind_eq_ok_iff]
  simp only [bind_eq_ok_iff, pure, Except.pure, Except.ok.injEq]
  constructor
  · rintro ⟨step, hstep, rest, hrest, h⟩
    exact ⟨step, rest, hstep, hrest, h⟩
  · rintro ⟨step, rest, hstep, hrest, h⟩
    exact ⟨step, hstep, rest, hrest, h⟩

/-- Further parts are read as the steps that they spell. -/
theorem steps?_eq_ok_iff : steps? ps = .ok steps ↔ Spells ps steps := by
  induction ps generalizing steps with
  | nil =>
      constructor
      · intro h
        cases h
        exact .nil
      · intro h
        cases h
        rfl
  | cons part ps ih =>
      rw [steps?_cons_eq_ok_iff]
      constructor
      · rintro ⟨step, rest, hstep, hrest, rfl⟩
        rcases step?_eq_ok_iff.1 hstep with ⟨rfl, rfl⟩ | ⟨hne, hstar, rfl⟩ | ⟨rfl, hlast, rfl⟩
        · exact .any (ih.1 hrest)
        · exact .literal hne hstar (ih.1 hrest)
        · rw [List.isEmpty_iff.1 hlast] at hrest
          cases hrest
          rw [List.isEmpty_iff.1 hlast]
          exact .rest
      · intro h
        cases h with
        | any h => exact ⟨_, _, step?_eq_ok_iff.2 (.inl ⟨rfl, rfl⟩), ih.2 h, rfl⟩
        | literal hne hstar h =>
            exact ⟨_, _, step?_eq_ok_iff.2 (.inr (.inl ⟨hne, hstar, rfl⟩)), ih.2 h, rfl⟩
        | rest => exact ⟨_, _, step?_eq_ok_iff.2 (.inr (.inr ⟨rfl, rfl, rfl⟩)), ih.2 .nil, rfl⟩

/-! ### Which parts are read -/

theorem namesType_exists_iff :
    (∃ selector, NamesType part selector) ↔ part = ['*'] ∨ part ≠ [] ∧ '*' ∉ part := by
  constructor
  · rintro ⟨selector, h⟩
    cases h with
    | any => exact .inl rfl
    | exact hne hstar => exact .inr ⟨hne, hstar⟩
  · rintro (rfl | ⟨hne, hstar⟩)
    · exact ⟨_, .any⟩
    · exact ⟨_, .exact hne hstar⟩

/-- Parts spell steps when each of them does in its place. -/
theorem spells_exists_iff :
    (∃ steps, Spells ps steps) ↔ ∀ before part after, ps = before ++ part :: after →
      part ≠ [] ∧ (part = ['*'] ∨ '*' ∉ part ∨ part = ['*', '*'] ∧ after = []) := by
  constructor
  · rintro ⟨steps, h⟩ before part after hps
    induction h generalizing before with
    | nil => simp at hps
    | any h ih =>
        cases before with
        | nil =>
            cases hps
            exact ⟨List.cons_ne_nil _ _, .inl rfl⟩
        | cons p before => exact ih before (List.cons.inj hps).2
    | literal hne hstar h ih =>
        cases before with
        | nil =>
            cases hps
            exact ⟨hne, .inr (.inl hstar)⟩
        | cons p before => exact ih before (List.cons.inj hps).2
    | rest =>
        cases before with
        | nil =>
            cases hps
            exact ⟨List.cons_ne_nil _ _, .inr (.inr ⟨rfl, rfl⟩)⟩
        | cons p before => simp at hps
  · intro h
    induction ps with
    | nil => exact ⟨[], .nil⟩
    | cons part ps ih =>
        obtain ⟨steps, hsteps⟩ := ih fun before p after e => h (part :: before) p after (e ▸ rfl)
        obtain ⟨hne, rfl | hstar | ⟨rfl, rfl⟩⟩ := h [] part ps rfl
        · exact ⟨_, .any hsteps⟩
        · exact ⟨_, .literal hne hstar hsteps⟩
        · exact ⟨_, .rest⟩

theorem denotes_exists_iff : (∃ steps, Denotes ps steps) ↔ ∃ steps, Spells ps steps := by
  constructor
  · rintro ⟨steps, h⟩
    cases h with
    | all => exact ⟨[], .nil⟩
    | steps hne h => exact ⟨steps, h⟩
  · rintro ⟨steps, h⟩
    cases ps with
    | nil => exact ⟨_, .all⟩
    | cons part ps => exact ⟨steps, .steps (List.cons_ne_nil _ _) h⟩

/-- `**` is the last step of what parts denote. -/
theorem Spells.rest_last (h : Spells ps steps) {before after : List Step}
    (hsteps : steps = before ++ .rest :: after) : after = [] := by
  induction h generalizing before with
  | nil => simp at hsteps
  | any h ih =>
      cases before with
      | nil => cases hsteps
      | cons s before => exact ih (List.cons.inj hsteps).2
  | literal hne hstar h ih =>
      cases before with
      | nil => cases hsteps
      | cons s before => exact ih (List.cons.inj hsteps).2
  | rest =>
      cases before with
      | nil => exact ((List.cons.inj hsteps).2).symm
      | cons s before => simp at hsteps

/-- `**` is the last step of the pattern that parts stand for. -/
theorem Denotes.rest_last (h : Denotes ps steps) {before after : List Step}
    (hsteps : steps = before ++ .rest :: after) : after = [] := by
  cases h with
  | all => exact Spells.rest.rest_last hsteps
  | steps hne h => exact h.rest_last hsteps

/-! ### Reading a rule -/

theorem denotes_steps_iff : Denotes ps steps ↔
    ∃ read, Spells ps read ∧ (if read.isEmpty then [.rest] else read) = steps := by
  constructor
  · intro h
    cases h with
    | all => exact ⟨[], .nil, rfl⟩
    | steps hne h =>
        refine ⟨steps, h, ?_⟩
        cases h with
        | nil => exact absurd rfl hne
        | any => rfl
        | literal => rfl
        | rest => rfl
  · rintro ⟨read, h, rfl⟩
    cases h with
    | nil => exact .all
    | any h => exact .steps (List.cons_ne_nil _ _) (.any h)
    | literal hne hstar h => exact .steps (List.cons_ne_nil _ _) (.literal hne hstar h)
    | rest => exact .steps (List.cons_ne_nil _ _) .rest

/-- **What a text is read as**: its first part names the types and the others the pattern. -/
theorem ofTrimmed?_eq_ok_iff : Rule.ofTrimmed? t = .ok r ↔
    t ≠ [] ∧ ∃ first further, t.splitOn '.' = first :: further ∧
      NamesType first r.selector ∧ Denotes further r.pattern ∧ r.text = .ofList t := by
  constructor
  · intro h
    unfold Rule.ofTrimmed? at h
    split at h
    case isTrue => cases h
    case isFalse hne =>
      split at h
      case h_1 => cases h
      case h_2 first further hparts =>
        obtain ⟨selector, hselector, h⟩ := bind_eq_ok_iff.1 h
        obtain ⟨read, hread, h⟩ := bind_eq_ok_iff.1 h
        cases h
        exact ⟨by simpa using hne, first, further, hparts, selector?_eq_ok_iff.1 hselector,
          denotes_steps_iff.2 ⟨read, steps?_eq_ok_iff.1 hread, rfl⟩, rfl⟩
  · rintro ⟨hne, first, further, hparts, hselector, hpattern, htext⟩
    obtain ⟨read, hread, hsteps⟩ := denotes_steps_iff.1 hpattern
    rw [Rule.ofTrimmed?, if_neg (by simpa using hne), parts, hparts]
    refine bind_eq_ok_iff.2 ⟨_, selector?_eq_ok_iff.2 hselector,
      bind_eq_ok_iff.2 ⟨_, steps?_eq_ok_iff.2 hread, ?_⟩⟩
    rw [← htext, hsteps]
    rfl

/-- Some rule is read just when the text is grammatical. -/
theorem ofTrimmed?_exists_iff : (∃ r, Rule.ofTrimmed? t = .ok r) ↔ Grammatical t := by
  constructor
  · rintro ⟨r, h⟩
    obtain ⟨hne, first, further, hparts, hselector, hpattern, -⟩ := ofTrimmed?_eq_ok_iff.1 h
    exact ⟨hne, first, further, hparts, namesType_exists_iff.1 ⟨_, hselector⟩,
      spells_exists_iff.1 (denotes_exists_iff.1 ⟨_, hpattern⟩)⟩
  · rintro ⟨hne, first, further, hparts, hfirst, hfurther⟩
    obtain ⟨selector, hselector⟩ := namesType_exists_iff.2 hfirst
    obtain ⟨pattern, hpattern⟩ := denotes_exists_iff.2 (spells_exists_iff.2 hfurther)
    exact ⟨⟨.ofList t, selector, pattern⟩, ofTrimmed?_eq_ok_iff.2
      ⟨hne, first, further, hparts, hselector, hpattern, rfl⟩⟩

/-! ### Writing a rule -/

/-- The part that names the types of a selector. -/
def Selector.written : Selector → List Char
  | .any     => ['*']
  | .exact t => t.toList

/-- The part that spells a step. -/
def Step.written : Step → List Char
  | .any       => ['*']
  | .literal t => t.toList
  | .rest      => ['*', '*']

theorem render_toList (selector : Selector) (pattern : List Step) :
    (render selector pattern).toList =
      ['.'].intercalate (selector.written :: pattern.map Step.written) := by
  have hfirst : ".".toList = ['.'] := rfl
  unfold render
  rw [String.toList_intercalate, hfirst, List.map_cons, List.map_map]
  congr 2
  · cases selector <;> rfl
  · refine List.map_congr_left fun step _ => ?_
    cases step <;> rfl

theorem NamesType.written_eq (h : NamesType part selector) : selector.written = part := by
  cases h with
  | any => rfl
  | exact hne hstar => exact String.toList_ofList

theorem Spells.map_written (h : Spells ps steps) : steps.map Step.written = ps := by
  induction h with
  | nil => rfl
  | any h ih => exact congrArg (['*'] :: ·) ih
  | literal hne hstar h ih => rw [List.map_cons, ih, Step.written, String.toList_ofList]
  | rest => rfl

/-- The parts that a selector and a pattern are written with are read as these. -/
theorem ofTrimmed?_intercalate (hdots : ∀ p ∈ first :: further, '.' ∉ p)
    (hselector : NamesType first selector) (hpattern : Denotes further steps) :
    Rule.ofTrimmed? (['.'].intercalate (first :: further)) =
      .ok ⟨.ofList (['.'].intercalate (first :: further)), selector, steps⟩ := by
  have hparts := List.splitOn_intercalate '.' hdots (List.cons_ne_nil _ _)
  refine ofTrimmed?_eq_ok_iff.2 ⟨fun h => ?_, first, further, hparts, hselector, hpattern, rfl⟩
  rw [h, List.splitOn_nil] at hparts
  cases hparts
  cases hselector with
  | exact hne hstar => exact hne rfl

/-- The selector and the pattern of a rule, written out, are read as themselves. -/
theorem ofText?_render (hr : Rule.ofTrimmed? t = .ok r) (ht : Trimmed t) :
    Rule.ofText? (render r.selector r.pattern) =
      .ok ⟨render r.selector r.pattern, r.selector, r.pattern⟩ := by
  obtain ⟨-, first, further, hparts, hselector, hpattern, -⟩ := ofTrimmed?_eq_ok_iff.1 hr
  have hdots : ∀ p ∈ first :: further, '.' ∉ p := hparts ▸ fun _ => Text.not_mem_of_mem_splitOn
  have htext : ['.'].intercalate (first :: further) = t := hparts ▸ List.intercalate_splitOn '.'
  -- the parts that are written may have `**` where none were read
  obtain ⟨written, hwritten, hdots, htoList, htrimmed⟩ : ∃ written, Denotes written r.pattern ∧
      (∀ p ∈ first :: written, '.' ∉ p) ∧
      (render r.selector r.pattern).toList = ['.'].intercalate (first :: written) ∧
      Trimmed (['.'].intercalate (first :: written)) := by
    rw [render_toList, hselector.written_eq]
    generalize r.pattern = pattern at hpattern ⊢
    cases hpattern with
    | all =>
        refine ⟨[['*', '*']], .steps (List.cons_ne_nil _ _) .rest, ?_, rfl, ?_⟩
        · intro p hp
          rcases List.mem_cons.1 hp with rfl | hp
          · exact hdots _ List.mem_cons_self
          · rw [List.mem_singleton.1 hp]
            decide
        · rw [List.intercalate_singleton] at htext
          rw [List.intercalate_cons_cons, List.append_assoc, htext]
          have hrest : Trimmed ['.', '*', '*'] := by
            constructor
            · intro c hc
              obtain rfl := Option.some.inj hc
              rfl
            · intro c hc
              obtain rfl := Option.some.inj hc
              rfl
          exact ht.append hrest
    | steps hne h => exact ⟨further, .steps hne h, hdots, by rw [h.map_written], htext ▸ ht⟩
  rw [Rule.ofText?, htoList, Text.trim_eq_self htrimmed,
    ofTrimmed?_intercalate hdots hselector hwritten, ← htoList, String.ofList_toList]

/-! ### The theorem -/

/-- **The grammar of rules.**  A text is read as a rule just when what is left of it without the
white space around it is grammatical.  The rule has that text, the selector that the first part
names, and the pattern that the others spell, where `**` is the last step.  Reading the text of the
rule gives the rule again, and so does, but for that text, what selector and pattern are written
as. -/
theorem ofText?_grammatical (s : String) :
    ((∃ r, Rule.ofText? s = .ok r) ↔ Grammatical (trim s.toList)) ∧
    ∀ r, Rule.ofText? s = .ok r →
      r.text = trimmed s ∧
      (∃ first further, (trim s.toList).splitOn '.' = first :: further ∧
        NamesType first r.selector ∧ Denotes further r.pattern) ∧
      (∀ before after, r.pattern = before ++ .rest :: after → after = []) ∧
      Rule.ofText? r.text = .ok r ∧
      ∃ r', Rule.ofText? (render r.selector r.pattern) = .ok r' ∧
        r'.selector = r.selector ∧ r'.pattern = r.pattern := by
  refine ⟨ofTrimmed?_exists_iff, fun r hr => ?_⟩
  obtain ⟨-, first, further, hparts, hselector, hpattern, htext⟩ := ofTrimmed?_eq_ok_iff.1 hr
  refine ⟨htext, ⟨first, further, hparts, hselector, hpattern⟩, fun before after h => ?_, ?_,
    _, ofText?_render hr (Text.trimmed_trim _), rfl, rfl⟩
  · generalize r.pattern = pattern at hpattern h
    cases hpattern with
    | all => exact Spells.rest.rest_last h
    | steps hne hspells => exact hspells.rest_last h
  · rw [Rule.ofText?, htext, String.toList_ofList, trim_trim]
    exact hr

/-- A type with white space around it is a rule for all paths, and written out it has `**`. -/
theorem ofText?_grammatical_type :
    Rule.ofText? " aws_vpc\n" = .ok ⟨"aws_vpc", .exact "aws_vpc", [.rest]⟩ ∧
      Grammatical "aws_vpc".toList ∧
      Rule.ofText? "aws_vpc" = .ok ⟨"aws_vpc", .exact "aws_vpc", [.rest]⟩ ∧
      ∃ r', Rule.ofText? "aws_vpc.**" = .ok r' ∧ r'.selector = .exact "aws_vpc" ∧
        r'.pattern = [.rest] := by
  have h : Rule.ofText? " aws_vpc\n" = .ok ⟨"aws_vpc", .exact "aws_vpc", [.rest]⟩ := by rfl
  have hwritten : render (.exact "aws_vpc") [.rest] = "aws_vpc.**" := by rfl
  obtain ⟨hiff, hread⟩ := ofText?_grammatical " aws_vpc\n"
  obtain ⟨-, -, -, hagain, hrender⟩ := hread _ h
  exact ⟨h, hiff.1 ⟨_, h⟩, hagain, hwritten ▸ hrender⟩

end ResourceMoves.Ignore
