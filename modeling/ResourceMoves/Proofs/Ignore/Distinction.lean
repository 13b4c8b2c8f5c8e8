import Mathlib.Data.Set.Finite.Basic
import ResourceMoves.Proofs.Ignore.Position
import ResourceMoves.Proofs.Ignore.Spelling
import ResourceMoves.Proofs.Number.Plain

/-!
# Ignore rules — telling paths apart

Which paths a rule can cover alone.  There is no way to write a literal that is empty or has a dot
or a star in it (`Writable`), nor one with white space at its end as the last part of a rule
(`EndsBlank`).  The patterns that texts are read as are just those made of other steps (`Readable`,
`readable_of_ofText?` and `ofText?_render_any`).

So with some segments each step that takes them takes others too (`Blurred`), and a path is confused
with all those that no pattern of its length tells apart from it (`Confused`), or no pattern that ends
in `**` (`ConfusedBelow`).  A rule that covers the path covers either all of the one sort or all of
the other (`Readable.covers_confused`).  Conversely there is a pattern of each kind that covers no
more, among finitely many paths (`exists_readable_confused`, `exists_readable_confusedBelow`): it has
literals wherever it can, and names an index with so many zeros in front that no key is the same.

**A path can be covered without the others just when none of them is confused with it** in the one
way, or none in the other (`exists_rule_iff`).
-/

namespace ResourceMoves.Ignore

open ResourceMoves.Attribute (Segment Path)
open ResourceMoves.Number (SpellsWord pow2)
open ResourceMoves.Text (isBlank)

variable {text : String} {ps : List (List Char)} {step : Step} {steps : List Step}
  {s t : Segment} {p q : Path} {i : Nat} {r : Rule}

/-! ### Steps and patterns that can be written -/

/-- The text can stand in a rule as a literal: it is not empty and has neither a dot nor a star. -/
structure Writable (text : String) : Prop where
  ne_empty : text ≠ ""
  dot      : '.' ∉ text.toList
  star     : '*' ∉ text.toList

/-- The last character of the text is white space. -/
def EndsBlank (text : String) : Prop := ∃ c, text.toList.getLast? = some c ∧ isBlank c

/-- The step stands for one segment and can be written. -/
inductive Step.Proper : Step → Prop
  | any : Proper .any
  | literal {text : String} (h : Writable text) : Proper (.literal text)

/-- The pattern can be written: its steps can, it has one at least, and the last of them is `**` or
does not end in white space. -/
inductive Readable : List Step → Prop
  | rest : Readable [.rest]
  | last {step : Step} (h : step.Proper)
      (hlast : ∀ text, step = .literal text → ¬ EndsBlank text) : Readable [step]
  | cons {step : Step} {steps : List Step} (h : step.Proper) (hsteps : Readable steps) :
      Readable (step :: steps)

theorem Step.Proper.ne_rest (h : step.Proper) : step ≠ .rest := by
  cases h <;> exact nofun

/-- What is written last is the last of the parts, or the dot before it if that part is empty. -/
theorem getLast?_intercalate (first part : List Char) (ps : List (List Char)) :
    (['.'].intercalate (first :: part :: ps)).getLast? =
      (['.'].intercalate (part :: ps)).getLast?.or (some '.') := by
  rw [List.intercalate_cons_cons, List.getLast?_append, List.getLast?_concat]

theorem readable_of_spells (h : Spells ps steps) (hne : ps ≠ []) (hdots : ∀ p ∈ ps, '.' ∉ p)
    {first : List Char}
    (hlast : ∀ c, (['.'].intercalate (first :: ps)).getLast? = some c → isBlank c = false) :
    Readable steps := by
  -- the end of the parts from one of them on is the end of them all
  have hfurther {part : List Char} {ps : List (List Char)} {first : List Char}
      (hlast : ∀ c, (['.'].intercalate (first :: part :: ps)).getLast? = some c →
        isBlank c = false) (c : Char)
      (hc : (['.'].intercalate (part :: ps)).getLast? = some c) : isBlank c = false :=
    hlast c (by rw [getLast?_intercalate, hc]; rfl)
  induction h generalizing first with
  | nil => exact absurd rfl hne
  | @any ps steps h ih =>
      obtain ⟨-, hdots⟩ := List.forall_mem_cons.1 hdots
      by_cases hps : ps = []
      · subst hps
        cases h
        exact .last .any nofun
      · obtain ⟨p, ps, rfl⟩ := List.exists_cons_of_ne_nil hps
        exact .cons .any (ih hps hdots (hfurther hlast))
  | @literal part ps steps hpart hstar h ih =>
      obtain ⟨hdot, hdots⟩ := List.forall_mem_cons.1 hdots
      have hwritable : Writable (.ofList part) := by
        refine ⟨fun h => hpart ?_, ?_, ?_⟩
        · simpa using congrArg String.toList h
        · rwa [String.toList_ofList]
        · rwa [String.toList_ofList]
      by_cases hps : ps = []
      · subst hps
        cases h
        refine .last (.literal hwritable) ?_
        rintro _ ⟨⟩ ⟨c, hc, hblank⟩
        rw [String.toList_ofList] at hc
        have hc' := hfurther hlast c (by rwa [List.intercalate_singleton])
        rw [hc'] at hblank
        cases hblank
      · obtain ⟨p, ps, rfl⟩ := List.exists_cons_of_ne_nil hps
        exact .cons (.literal hwritable) (ih hps hdots (hfurther hlast))
  | rest => exact .rest

/-- **What is read can be written.** -/
theorem readable_of_ofText? (h : Rule.ofText? text = .ok r) : Readable r.pattern := by
  obtain ⟨-, first, further, hparts, -, hpattern, -⟩ := ofTrimmed?_eq_ok_iff.1 h
  have htext : ['.'].intercalate (first :: further) = Text.trim text.toList :=
    hparts ▸ List.intercalate_splitOn '.'
  have hdots : ∀ p ∈ first :: further, '.' ∉ p := hparts ▸ fun _ => Text.not_mem_of_mem_splitOn
  generalize r.pattern = pattern at hpattern
  cases hpattern with
  | all => exact .rest
  | steps hne hspells =>
      exact readable_of_spells hspells hne (List.forall_mem_cons.1 hdots).2
        (htext ▸ (Text.trimmed_trim text.toList).last)

namespace Readable

theorem ne_nil (h : Readable steps) : steps ≠ [] := by
  cases h <;> exact List.cons_ne_nil _ _

theorem spells (h : Readable steps) : Spells (steps.map Step.written) steps := by
  have hcons {step : Step} {steps : List Step} (h : step.Proper)
      (hsteps : Spells (steps.map Step.written) steps) :
      Spells ((step :: steps).map Step.written) (step :: steps) := by
    cases h with
    | any => exact .any hsteps
    | @literal text h =>
        have hspells := Spells.literal (fun e => h.ne_empty (String.toList_eq_nil_iff.1 e)) h.star
          hsteps
        rwa [String.ofList_toList] at hspells
  induction h with
  | rest => exact .rest
  | last h => exact hcons h .nil
  | cons h _ ih => exact hcons h ih

theorem dot_not_mem (h : Readable steps) : ∀ p ∈ steps.map Step.written, '.' ∉ p := by
  have hstep {step : Step} (h : step.Proper) : '.' ∉ step.written := by
    cases h with
    | any => decide
    | literal h => exact h.dot
  induction h with
  | rest => decide
  | last h => exact List.forall_mem_singleton.2 (hstep h)
  | cons h _ ih => exact List.forall_mem_cons.2 ⟨hstep h, ih⟩

/-- A rule with the pattern does not end in white space. -/
theorem last_not_blank (h : Readable steps) (first : List Char) :
    ∀ c, (['.'].intercalate (first :: steps.map Step.written)).getLast? = some c →
      isBlank c = false := by
  induction h generalizing first with
  | rest =>
      rintro c hc
      rw [List.map_singleton, getLast?_intercalate, List.intercalate_singleton] at hc
      cases hc
      rfl
  | @last step h hlast =>
      intro c hc
      rw [List.map_singleton, getLast?_intercalate, List.intercalate_singleton,
        Option.or_eq_some_iff] at hc
      rcases hc with hc | ⟨-, hc⟩
      · cases h with
        | any =>
            cases hc
            rfl
        | @literal text h =>
            rw [← Bool.not_eq_true]
            exact fun hblank => hlast text rfl ⟨c, hc, hblank⟩
      · cases hc
        rfl
  | @cons step steps h hsteps ih =>
      intro c hc
      rw [List.map_cons, getLast?_intercalate, Option.or_eq_some_iff] at hc
      rcases hc with hc | ⟨-, hc⟩
      · exact ih _ c hc
      · cases hc
        rfl

end Readable

/-- **What can be written is read**, with a selector for all types. -/
theorem ofText?_render_any (h : Readable steps) :
    Rule.ofText? (render .any steps) = .ok ⟨render .any steps, .any, steps⟩ := by
  have hdots : ∀ p ∈ ['*'] :: steps.map Step.written, '.' ∉ p :=
    List.forall_mem_cons.2 ⟨by decide, h.dot_not_mem⟩
  have htoList : (render .any steps).toList =
      ['.'].intercalate (['*'] :: steps.map Step.written) := render_toList _ _
  have htrimmed : Text.Trimmed (['.'].intercalate (['*'] :: steps.map Step.written)) := by
    refine ⟨fun c hc => ?_, h.last_not_blank _⟩
    obtain ⟨step, further, rfl⟩ := List.exists_cons_of_ne_nil h.ne_nil
    cases hc
    rfl
  rw [Rule.ofText?, htoList, Text.trim_eq_self htrimmed,
    ofTrimmed?_intercalate hdots .any (.steps (by simpa using h.ne_nil) h.spells), ← htoList,
    String.ofList_toList]

/-! ### Segments and paths that are confused -/

/-- Some literal names the segment. -/
inductive Expressible : Segment → Prop
  | key {name : String} (h : Writable name) : Expressible (.key name)
  | index {i : Nat} (h : i < pow2 64) : Expressible (.index i)

/-- Whatever step takes the first segment takes the second too: it is the same segment, or no
literal names the first, or the first is a key that spells the index which is the second. -/
inductive Blurred : Segment → Segment → Prop
  | same (s : Segment) : Blurred s s
  | inexpressible {s : Segment} (h : ¬ Expressible s) (t : Segment) : Blurred s t
  | number {name : String} {i : Nat} (h : SpellsWord name.toList i) :
      Blurred (.key name) (.index i)

/-- The paths are of one length, and are blurred segment by segment; if the first ends with a key at
whose end there is white space, the last segments do not matter. -/
inductive Confused : Path → Path → Prop
  | last {s t : Segment} (h : Blurred s t) : Confused [s] [t]
  | blank {name : String} (h : EndsBlank name) (t : Segment) : Confused [.key name] [t]
  | cons {s t : Segment} {p q : Path} (h : Blurred s t) (hpq : Confused p q) :
      Confused (s :: p) (t :: q)

/-- The first path is blurred, segment by segment, with the second one or with a beginning of it. -/
inductive ConfusedBelow : Path → Path → Prop
  | nil (q : Path) : ConfusedBelow [] q
  | cons {s t : Segment} {p q : Path} (h : Blurred s t) (hpq : ConfusedBelow p q) :
      ConfusedBelow (s :: p) (t :: q)

theorem Step.Takes.expressible {text : String} (h : (Step.literal text).Takes s)
    (htext : Writable text) : Expressible s := by
  cases h with
  | key => exact .key htext
  | index h => exact .index h.lt

theorem Blurred.takes (h : Blurred s t) (hstep : step.Proper) (hs : step.Takes s) :
    step.Takes t := by
  cases hstep with
  | any => exact .any t
  | literal htext =>
      cases h with
      | same => exact hs
      | inexpressible h => exact absurd (hs.expressible htext) h
      | number h =>
          cases hs with
          | key => exact .index h

/-- A number does not end in white space. -/
theorem not_endsBlank_of_spellsWord (h : SpellsWord text.toList i) : ¬ EndsBlank text := by
  rintro ⟨c, hc, hblank⟩
  exact Bool.false_ne_true
    ((h.isBlank_of_mem c (List.mem_of_getLast? hc)).symm.trans hblank)

/-! ### What a pattern covers -/

/-- Of the patterns that can be written, only `**` covers the path to the root. -/
theorem Readable.eq_rest_of_covers_nil (h : Readable steps) (hcovers : covers steps []) :
    steps = [.rest] := by
  cases h with
  | rest => rfl
  | last h =>
      obtain ⟨_, _, hp, -⟩ := (covers_cons_iff h.ne_rest).1 hcovers
      cases hp
  | cons h =>
      obtain ⟨_, _, hp, -⟩ := (covers_cons_iff h.ne_rest).1 hcovers
      cases hp

/-- **A pattern cannot avoid what is confused** with a path that it covers, in the one way or in the
other. -/
theorem Readable.covers_confused (h : Readable steps) (hp : covers steps p) :
    (∀ q, Confused p q → covers steps q) ∨ (∀ q, ConfusedBelow p q → covers steps q) := by
  induction h generalizing p with
  | rest => exact .inr fun _ _ => rfl
  | @last step h hlast =>
      left
      obtain ⟨s, p, rfl, hs, hp⟩ := (covers_cons_iff h.ne_rest).1 hp
      have hone {t : Segment} (ht : step.Takes t) : covers [step] [t] :=
        (covers_cons_iff h.ne_rest).2 ⟨t, [], rfl, ht, rfl⟩
      intro q hq
      cases hq with
      | last hst => exact hone (hst.takes h hs)
      | blank hblank t =>
          cases hs with
          | any => exact hone (.any t)
          | key => exact absurd hblank (hlast _ rfl)
      | cons _ hpq =>
          cases hpq <;> exact absurd hp Bool.false_ne_true
  | @cons step steps h hsteps ih =>
      obtain ⟨s, p, rfl, hs, hp⟩ := (covers_cons_iff h.ne_rest).1 hp
      have hcons {t : Segment} {q : Path} (hst : Blurred s t) (hq : covers steps q) :
          covers (step :: steps) (t :: q) :=
        (covers_cons_iff h.ne_rest).2 ⟨t, q, rfl, hst.takes h hs, hq⟩
      -- a pattern that ends here, without segments left, ends in `**`
      by_cases hnil : p = []
      · subst hnil
        obtain rfl := hsteps.eq_rest_of_covers_nil hp
        right
        rintro _ (_ | ⟨hst, _⟩)
        exact hcons hst rfl
      · rcases ih hp with hall | hall
        · left
          intro q hq
          cases hq with
          | last => exact absurd rfl hnil
          | blank => exact absurd rfl hnil
          | cons hst hpq => exact hcons hst (hall _ hpq)
        · right
          rintro _ (_ | ⟨hst, hpq⟩)
          exact hcons hst (hall _ hpq)

/-! ### Patterns that cover no more -/

/-- The digits of an index with `k` zeros in front. -/
def spelling (i k : Nat) : String := .ofList (List.replicate k '0' ++ Number.digits i)

theorem spelling_toList (i k : Nat) :
    (spelling i k).toList = List.replicate k '0' ++ Number.digits i :=
  String.toList_ofList

theorem spelling_injective (i : Nat) : Function.Injective (spelling i) := by
  intro k l h
  have htoList := congrArg String.toList h
  rw [spelling_toList, spelling_toList] at htoList
  simpa using congrArg List.length htoList

theorem writable_spelling (hi : i < pow2 64) (k : Nat) : Writable (spelling i k) := by
  have hword := Number.digitsOfWord_zeros k hi
  rw [← spelling_toList] at hword
  refine ⟨fun h => hword.ne_nil (String.toList_eq_nil_iff.2 h), fun h => ?_, fun h => ?_⟩
  · exact (chars_of_isDigit (hword.digits _ h)).1 rfl
  · exact (chars_of_isDigit (hword.digits _ h)).2.1 rfl

/-- An index has a spelling other than any of finitely many keys. -/
theorem exists_spelling (hi : i < pow2 64) (taken : List Segment) :
    ∃ text, Writable text ∧ SpellsWord text.toList i ∧ .key text ∉ taken := by
  have hinj : Function.Injective fun k => Segment.key (spelling i k) := fun _ _ h =>
    spelling_injective i (Segment.key.inj h)
  obtain ⟨_, ⟨k, rfl⟩, hk⟩ := (Set.infinite_range_of_injective hinj).exists_notMem_finset
    taken.toFinset
  refine ⟨spelling i k, writable_spelling hi k, ?_, fun h => hk (List.mem_toFinset.2 h)⟩
  rw [spelling_toList]
  exact .bare (Number.digitsOfWord_zeros k hi)

/-- Some step takes the segment and, of finitely many, only those blurred with it. -/
theorem exists_step (s : Segment) (others : List Segment) :
    ∃ step : Step, step.Proper ∧ step.Takes s ∧ ∀ t ∈ others, step.Takes t → Blurred s t := by
  by_cases hs : Expressible s
  · cases hs with
    | @key name h =>
        refine ⟨.literal name, .literal h, .key name, fun t _ ht => ?_⟩
        cases ht with
        | key => exact .same _
        | index h => exact .number h
    | @index i h =>
        obtain ⟨text, hwritable, hspells, hnot⟩ := exists_spelling h others
        refine ⟨.literal text, .literal hwritable, .index hspells, fun t htaken ht => ?_⟩
        cases ht with
        | key => exact absurd htaken hnot
        | index h => exact hspells.unique h ▸ .same _
  · exact ⟨.any, .any, .any s, fun t _ _ => .inexpressible hs t⟩

/-- Some step that can be written last takes the segment and, of finitely many, only those confused
with it: a star if the literal for a key ends in white space. -/
theorem exists_last_step (s : Segment) (others : List Segment) :
    ∃ step : Step, step.Proper ∧ (∀ text, step = .literal text → ¬ EndsBlank text) ∧
      step.Takes s ∧ ∀ t ∈ others, step.Takes t → Confused [s] [t] := by
  obtain ⟨step, hstep, hs, honly⟩ := exists_step s others
  by_cases hblank : ∃ text, step = .literal text ∧ EndsBlank text
  · obtain ⟨text, rfl, hblank⟩ := hblank
    refine ⟨.any, .any, nofun, .any s, fun t _ _ => ?_⟩
    cases hs with
    | key => exact .blank hblank t
    | index h => exact absurd hblank (not_endsBlank_of_spellsWord h)
  · exact ⟨step, hstep, fun text htext h => hblank ⟨text, htext, h⟩, hs,
      fun t ht htakes => .last (honly t ht htakes)⟩

/-- Some pattern that ends in `**` covers the path and, of paths with finitely many segments, only
those confused with it in this way. -/
theorem exists_readable_confusedBelow (p : Path) (others : List Segment) :
    ∃ steps, Readable steps ∧ covers steps p ∧
      ∀ q : Path, q ⊆ others → covers steps q → ConfusedBelow p q := by
  induction p with
  | nil => exact ⟨[.rest], .rest, rfl, fun q _ _ => .nil q⟩
  | cons s p ih =>
      obtain ⟨step, hstep, hs, honly⟩ := exists_step s others
      obtain ⟨steps, hsteps, hp, hall⟩ := ih
      refine ⟨step :: steps, .cons hstep hsteps,
        (covers_cons_iff hstep.ne_rest).2 ⟨s, p, rfl, hs, hp⟩, fun q hq hcovers => ?_⟩
      obtain ⟨t, q, rfl, ht, hcovers⟩ := (covers_cons_iff hstep.ne_rest).1 hcovers
      obtain ⟨htaken, hq⟩ := List.cons_subset.1 hq
      exact .cons (honly t htaken ht) (hall q hq hcovers)

/-- Some pattern covers the path, which is not the root's, and, of paths with finitely many segments,
only those confused with it. -/
theorem exists_readable_confused (hne : p ≠ []) (others : List Segment) :
    ∃ steps, Readable steps ∧ covers steps p ∧
      ∀ q : Path, q ⊆ others → covers steps q → Confused p q := by
  induction p with
  | nil => exact absurd rfl hne
  | cons s p ih =>
      by_cases hp : p = []
      · subst hp
        obtain ⟨step, hstep, hlast, hs, honly⟩ := exists_last_step s others
        refine ⟨[step], .last hstep hlast,
          (covers_cons_iff hstep.ne_rest).2 ⟨s, [], rfl, hs, rfl⟩, fun q hq hcovers => ?_⟩
        obtain ⟨t, q, rfl, ht, hcovers⟩ := (covers_cons_iff hstep.ne_rest).1 hcovers
        cases q with
        | nil => exact honly t (hq List.mem_cons_self) ht
        | cons => exact absurd hcovers Bool.false_ne_true
      · obtain ⟨step, hstep, hs, honly⟩ := exists_step s others
        obtain ⟨steps, hsteps, hcovers, hall⟩ := ih hp
        refine ⟨step :: steps, .cons hstep hsteps,
          (covers_cons_iff hstep.ne_rest).2 ⟨s, p, rfl, hs, hcovers⟩, fun q hq hcovers => ?_⟩
        obtain ⟨t, q, rfl, ht, hcovers⟩ := (covers_cons_iff hstep.ne_rest).1 hcovers
        obtain ⟨htaken, hq⟩ := List.cons_subset.1 hq
        exact .cons (honly t htaken ht) (hall q hq hcovers)

/-! ### One path without the others -/

/-- **When a rule can cover a path without the others.**  Some text is read as a rule that matches
the type at the first path, which is not the root's, and at none of the others, just when none of
them is confused with it, or none is confused below it. -/
theorem exists_rule_iff (hne : p ≠ []) (type : String) (others : List Path) :
    (∃ text r, Rule.ofText? text = .ok r ∧ r.matches type p ∧
      ∀ q ∈ others, r.matches type q = false) ↔
    (∀ q ∈ others, ¬ Confused p q) ∨ (∀ q ∈ others, ¬ ConfusedBelow p q) := by
  constructor
  · rintro ⟨text, r, hr, hp, hothers⟩
    obtain ⟨htype, hp⟩ := Bool.and_eq_true_iff.1 hp
    have hnot {q : Path} (hq : q ∈ others) : ¬ covers r.pattern q := fun h =>
      Bool.false_ne_true ((hothers q hq).symm.trans (Bool.and_eq_true_iff.2 ⟨htype, h⟩))
    rcases (readable_of_ofText? hr).covers_confused hp with hall | hall
    · exact .inl fun q hq h => hnot hq (hall q h)
    · exact .inr fun q hq h => hnot hq (hall q h)
  · -- a pattern that covers the path gives a rule, if it covers none of the others
    have hrule {steps : List Step} (hsteps : Readable steps) (hp : covers steps p)
        (hothers : ∀ q ∈ others, ¬ covers steps q) :
        ∃ text r, Rule.ofText? text = .ok r ∧ r.matches type p ∧
          ∀ q ∈ others, r.matches type q = false :=
      ⟨_, _, ofText?_render_any hsteps, hp, fun q hq => Bool.eq_false_iff.2 (hothers q hq)⟩
    have hsub {q : Path} (hq : q ∈ others) : q ⊆ others.flatten := fun s hs =>
      List.mem_flatten.2 ⟨q, hq, hs⟩
    rintro (hnone | hnone)
    · obtain ⟨steps, hsteps, hp, hall⟩ := exists_readable_confused hne others.flatten
      exact hrule hsteps hp fun q hq h => hnone q hq (hall q (hsub hq) h)
    · obtain ⟨steps, hsteps, hp, hall⟩ := exists_readable_confusedBelow p others.flatten
      exact hrule hsteps hp fun q hq h => hnone q hq (hall q (hsub hq) h)

/-- A path of segments that literals name is not confused below itself with a path that parts from
it. -/
theorem not_confusedBelow_of_parts (hp : ∀ s ∈ p, Expressible s)
    (h : Parts Segment.Less p q ∨ Parts Segment.Less q p) : ¬ ConfusedBelow p q := by
  intro hconfused
  induction hconfused with
  | nil q =>
      rcases h with h | h <;> cases h
  | @cons s t p q hst _ ih =>
      obtain ⟨hs, hp⟩ := List.forall_mem_cons.1 hp
      have hnot : ¬ s.Less t ∧ ¬ t.Less s := by
        cases hst with
        | same => exact ⟨s.not_less_self, s.not_less_self⟩
        | inexpressible h => exact absurd hs h
        | number => exact ⟨nofun, nofun⟩
      refine ih hp ?_
      rcases h with h | h
      · cases h with
        | here h => exact absurd h hnot.1
        | later h => exact .inl h
      · cases h with
        | here h => exact absurd h hnot.2
        | later h => exact .inr h

end ResourceMoves.Ignore
