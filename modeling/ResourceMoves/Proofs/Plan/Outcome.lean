import ResourceMoves.Proofs.Matching.Cancellation
import ResourceMoves.Proofs.Plan.Extraction

/-!
# Plan — what an analysis comes to

When an analysis is refused, and why (`analyse_outcome`).  There are three reasons, and the first
that holds is the one that is given (`Refused`): an entry is flawed, two candidates for deletion have
one address, or two candidates for creation do.  The address that is named is the first to be
repeated (`FirstRepeat`).  **Nothing else is refused** as long as nobody stops the work, however the
comparing is shared (`Ends`); and what is stopped before it begins is not looked at.
-/

namespace ResourceMoves

/-- `a` is the first item of the list that repeats an earlier one. -/
def FirstRepeat (as : List String) (a : String) : Prop :=
  ∃ before after, as = before ++ a :: after ∧ a ∈ before ∧ before.Nodup

namespace Matching

open ResourceMoves.Plan (Candidate Side)

variable {judge : Judge} {deletes creates candidates : List Candidate} {side : Side} {a : String}
  {refusal : Refusal}

/-! ### Repeated addresses -/

/-- The first item that repeats an earlier one, or one of those `seen`. -/
theorem firstRepeat?_eq_some_iff {seen ss : List String} :
    firstRepeat? seen ss = some a ↔ ∃ before after, ss = before ++ a :: after ∧
      (a ∈ before ∨ a ∈ seen) ∧ before.Nodup ∧ ∀ s ∈ before, s ∉ seen := by
  induction ss generalizing seen with
  | nil => simp [firstRepeat?]
  | cons s ss ih =>
      by_cases hs : s ∈ seen
      · rw [firstRepeat?, if_pos (by simpa using hs), Option.some.injEq]
        constructor
        · rintro rfl
          exact ⟨[], ss, rfl, .inr hs, List.nodup_nil, List.forall_mem_nil _⟩
        · rintro ⟨before, after, heq, -, -, hfresh⟩
          cases before with
          | nil => exact (List.cons.inj heq).1
          | cons b before =>
              obtain ⟨rfl, -⟩ := List.cons.inj heq
              exact absurd hs (hfresh s List.mem_cons_self)
      · rw [firstRepeat?, if_neg (by simpa using hs), ih]
        constructor
        · rintro ⟨before, after, rfl, ha, hnodup, hfresh⟩
          refine ⟨s :: before, after, rfl, ?_, ?_, ?_⟩
          · simpa [or_assoc, or_left_comm] using ha
          · exact List.nodup_cons.2 ⟨fun hmem => hfresh s hmem List.mem_cons_self, hnodup⟩
          · exact List.forall_mem_cons.2 ⟨hs, fun x hx => mt (List.mem_cons_of_mem s) (hfresh x hx)⟩
        · rintro ⟨before, after, heq, ha, hnodup, hfresh⟩
          cases before with
          | nil =>
              obtain ⟨rfl, -⟩ := List.cons.inj heq
              exact absurd (ha.resolve_left List.not_mem_nil) hs
          | cons b before =>
              obtain ⟨rfl, rfl⟩ := List.cons.inj heq
              obtain ⟨hb, hnodup⟩ := List.nodup_cons.1 hnodup
              obtain ⟨-, hfresh⟩ := List.forall_mem_cons.1 hfresh
              refine ⟨before, after, rfl, ?_, hnodup, fun x hx hmem => ?_⟩
              · simpa [or_assoc, or_left_comm] using ha
              · rcases List.mem_cons.1 hmem with rfl | hmem
                · exact hb hx
                · exact hfresh x hx hmem

theorem checkUnique_eq_error_iff : checkUnique side candidates = .error refusal ↔
    ∃ a, FirstRepeat (candidates.map (·.address)) a ∧ refusal = .duplicate side a := by
  have hrepeat (a : String) : firstRepeat? [] (candidates.map (·.address)) = some a ↔
      FirstRepeat (candidates.map (·.address)) a := by
    rw [firstRepeat?_eq_some_iff, FirstRepeat]
    simp
  simp only [← hrepeat]
  unfold checkUnique
  cases firstRepeat? [] (candidates.map (·.address)) <;> simp [eq_comm]

/-- When candidates are refused though nobody stops the work. -/
theorem solve_never_eq_error_iff : solve .never judge deletes creates = .error refusal ↔
    (∃ a, FirstRepeat (deletes.map (·.address)) a ∧ refusal = .duplicate .delete a) ∨
      Unique deletes ∧
        ∃ a, FirstRepeat (creates.map (·.address)) a ∧ refusal = .duplicate .create a := by
  have hcheck : solve .never judge deletes creates = .error refusal ↔
      Schedule.checkBoth deletes creates = .error refusal := by
    cases h : Schedule.checkBoth deletes creates with
    | error r => rw [Schedule.solve_of_checkBoth_error h]; simp
    | ok u =>
        obtain ⟨hd, hc⟩ := Schedule.checkBoth_eq_ok_iff.1 h
        rw [solve_never hd hc]
        simp
  rw [hcheck, Schedule.checkBoth, bind_eq_error_iff, checkUnique_eq_error_iff,
    checkUnique_eq_error_iff]
  refine or_congr_right ⟨?_, fun h => ⟨(), checkUnique_eq_ok_iff.2 h.1, h.2⟩⟩
  rintro ⟨⟨⟩, hd, h⟩
  exact ⟨checkUnique_eq_ok_iff.1 hd, h⟩

/-! ### Work that nobody stops -/

namespace Schedule

variable {s s' : State} {e : Event} {es : List Event}

theorem Step.flag_eq (h : Step judge deletes creates s e s') (he : e ≠ .cancel) :
    s'.flag = s.flag := by
  cases h with
  | cancel => exact absurd rfl he
  | _ => rfl

/-- Unless somebody sets the flag, it is never found set. -/
theorem Run.any_sees_eq_false (h : Run judge deletes creates s es s') (hflag : s.flag = false)
    (hes : .cancel ∉ es) : es.any Event.sees = false := by
  induction h with
  | refl => rfl
  | @more s s₁ s' e es h _ ih =>
      rw [List.mem_cons, not_or] at hes
      have hsees : e.sees = false := by
        cases e with
        | check c set => exact h.check_eq_flag.trans hflag
        | cancel | work => rfl
      rw [List.any_cons, hsees, Bool.false_or]
      exact ih ((h.flag_eq (Ne.symm hes.1)).trans hflag) hes.2

end Schedule

/-- Shared work that nobody stops ends with what solving gives, and it does end. -/
theorem exists_ends_iff {result : Except Refusal Matching} :
    (∃ es, .cancel ∉ es ∧ Ends judge deletes creates es result) ↔
      result = solve .never judge deletes creates := by
  have hend {es : List Schedule.Event} {r : Except Refusal Matching} (hes : .cancel ∉ es)
      (h : Ends judge deletes creates es r) : r = solve .never judge deletes creates := by
    obtain ⟨flag, hrun⟩ := h
    rw [hrun.result_cases, hrun.any_sees_eq_false rfl hes, if_neg Bool.false_ne_true]
  constructor
  · rintro ⟨es, hes, h⟩
    exact hend hes h
  · rintro rfl
    have hinv : Schedule.Inv judge deletes creates false Schedule.State.initial.stage :=
      Schedule.inv_initial
    obtain ⟨es, flag, r, hrun, hes⟩ := hinv.exists_end
    exact ⟨es, hes, hend hes ⟨flag, hrun⟩ ▸ ⟨flag, hrun⟩⟩

end Matching

namespace Plan

open ResourceMoves.Matching (Watch judgeBy solve)
open ResourceMoves.Matching.Schedule (Event)

variable {p : Plan} {rules : List Ignore.Rule} {f : Fault}

/-! ### Analyses -/

/-- Why a plan is refused, though nobody stops its analysis: the first flawed entry, or else the
first repeated address of a candidate for deletion, or else that of a candidate for creation. -/
inductive Refused (p : Plan) : Fault → Prop
  | malformed {e : Entry} {d : Defect} (h : p.FirstFlaw e d) : Refused p (.planEntry e.address d)
  | deletes {cs : Candidates} {a : String} (h : p.extract = .ok cs)
      (ha : FirstRepeat (cs.deletes.map (·.address)) a) : Refused p (.duplicate .delete a)
  | creates {cs : Candidates} {a : String} (h : p.extract = .ok cs)
      (hd : (cs.deletes.map (·.address)).Nodup) (ha : FirstRepeat (cs.creates.map (·.address)) a) :
      Refused p (.duplicate .create a)

/-- The analysis may end with `result` when its pairs are compared as shared work, in the course of
these events. -/
inductive Ends (p : Plan) (rules : List Ignore.Rule) : List Event → Except Fault Matching → Prop
  | refused {f : Fault} (h : p.extract = .error f) : Ends p rules [] (.error f)
  | solved {cs : Candidates} {es : List Event} {result : Except Matching.Refusal Matching}
      (h : p.extract = .ok cs)
      (hends : Matching.Ends (judgeBy rules) cs.deletes cs.creates es result) :
      Ends p rules es (result.mapError Fault.ofRefusal)

theorem analyse_never : p.analyse .never rules = p.extract >>= fun cs =>
    (solve .never (judgeBy rules) cs.deletes cs.creates).mapError Fault.ofRefusal :=
  rfl

theorem analyse_never_eq_error_iff : p.analyse .never rules = .error f ↔ p.Refused f := by
  simp only [analyse_never, bind_eq_error_iff, extract_eq_error_iff, mapError_eq_error_iff,
    Matching.solve_never_eq_error_iff]
  constructor
  · rintro (⟨e, d, h, rfl⟩ | ⟨cs, h, -, ⟨a, ha, rfl⟩ | ⟨hd, a, ha, rfl⟩, rfl⟩)
    · exact .malformed h
    · exact .deletes h ha
    · exact .creates h hd ha
  · rintro (h | ⟨h, ha⟩ | ⟨h, hd, ha⟩)
    · exact .inl ⟨_, _, h, rfl⟩
    · exact .inr ⟨_, h, _, .inl ⟨_, ha, rfl⟩, rfl⟩
    · exact .inr ⟨_, h, _, .inr ⟨hd, _, ha, rfl⟩, rfl⟩

theorem analyse_never_eq_ok_iff : (∃ m, p.analyse .never rules = .ok m) ↔
    ∃ cs, p.extract = .ok cs ∧ ∀ side, ((cs.on side).map (·.address)).Nodup := by
  constructor
  · rintro ⟨m, hm⟩
    obtain ⟨-, hflaw, hsolve⟩ := analyse_eq_ok_iff.1 hm
    obtain ⟨hd, hc⟩ := Matching.unique_of_solve hsolve
    refine ⟨p.candidates, extract_eq_ok_iff.2 ⟨hflaw, rfl⟩, fun side => ?_⟩
    cases side with
    | delete => exact hd
    | create => exact hc
  · rintro ⟨cs, h, hunique⟩
    obtain ⟨hflaw, rfl⟩ := extract_eq_ok_iff.1 h
    exact ⟨_, analyse_eq_ok_iff.2
      ⟨rfl, hflaw, Matching.solve_never (hunique .delete) (hunique .create)⟩⟩

/-- Shared work that nobody stops ends with what the analysis gives, and it does end. -/
theorem exists_ends_iff {result : Except Fault Matching} :
    (∃ es, .cancel ∉ es ∧ p.Ends rules es result) ↔ result = p.analyse .never rules := by
  rw [analyse_never]
  cases h : p.extract with
  | error f =>
      constructor
      · rintro ⟨-, -, h' | ⟨h', -⟩⟩
        · exact h'.symm.trans h ▸ rfl
        · cases h'.symm.trans h
      · rintro rfl
        exact ⟨[], List.not_mem_nil, .refused h⟩
  | ok cs =>
      constructor
      · rintro ⟨es, hes, h' | ⟨h', hends⟩⟩
        · cases h'.symm.trans h
        · cases h'.symm.trans h
          rw [Matching.exists_ends_iff.1 ⟨es, hes, hends⟩]
          rfl
      · rintro rfl
        obtain ⟨es, hes, hends⟩ := Matching.exists_ends_iff.2 rfl
        exact ⟨es, hes, .solved h hends⟩

/-- **What an analysis comes to.**  Unless somebody stops it, it gives a matching just when no entry
is flawed and no address is repeated on a side, and else the reason is the first that holds; to
share its work changes nothing.  When it is stopped before it begins, not even the entries are
checked. -/
theorem analyse_outcome (p : Plan) (rules : List Ignore.Rule) :
    (∀ f, p.analyse .never rules = .error f ↔ p.Refused f) ∧
    ((∃ m, p.analyse .never rules = .ok m) ↔
      ∃ cs, p.extract = .ok cs ∧ ∀ side, ((cs.on side).map (·.address)).Nodup) ∧
    (∀ result, (∃ es, .cancel ∉ es ∧ p.Ends rules es result) ↔
      result = p.analyse .never rules) ∧
    ∀ watch, watch .start = true → p.analyse watch rules = .error .cancelled := by
  refine ⟨fun f => analyse_never_eq_error_iff, analyse_never_eq_ok_iff,
    fun result => exists_ends_iff, fun watch hstart => ?_⟩
  simp only [analyse, Matching.checkpoint, hstart, if_true]
  rfl

/-- A renaming is analysed.  With each entry listed twice both sides repeat an address, and the one
that is destroyed is named, unless the analysis is stopped. -/
theorem analyse_outcome_renamed :
    ∃ p : Plan, p.entries = renamed.entries ++ renamed.entries ∧
      (∃ m, renamed.analyse .never [] = .ok m) ∧
      p.analyse .never [] = .error (.duplicate .delete "t.a") ∧
      p.analyse .always [] = .error .cancelled := by
  have hrepeat : FirstRepeat ["t.a", "t.a"] "t.a" := ⟨["t.a"], [], rfl, by decide, by decide⟩
  have hunique (side : Side) : ((renamed.candidates.on side).map (·.address)).Nodup := by
    cases side <;> decide
  obtain ⟨-, hok, -, -⟩ := analyse_outcome renamed []
  obtain ⟨herror, -, -, hstopped⟩ :=
    analyse_outcome { renamed with entries := renamed.entries ++ renamed.entries } []
  exact ⟨_, rfl, hok.2 ⟨_, extract_eq_ok_iff.2 ⟨by decide, rfl⟩, hunique⟩,
    (herror _).2 (.deletes (extract_eq_ok_iff.2 ⟨by decide, rfl⟩) hrepeat), hstopped _ rfl⟩

end Plan

end ResourceMoves
