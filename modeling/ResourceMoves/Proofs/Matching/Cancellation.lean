import ResourceMoves.Proofs.Matching.Schedule

/-!
# Matching — cancellation is all or nothing

What shared work ends with, whatever its schedule and whenever it is cancelled (`solve_cancellation`).

A watch says what would be read at each checkpoint, and a run follows it when each of its readings
is what the watch says (`Follows`).  **Scheduling does not matter** (`Run.result_eq`): every run that
follows a watch ends with what solving gives under it.  The reason is that a run which is not
cancelled has read the flag at every checkpoint of solving (`Step.passed`), so that none is left
where the watch could have stopped it; hence a flag that is set before the last reading is noticed
(`Run.cancelled_of_unread`).  And every watch is followed by some run (`Inv.exists_following`): the
flag is set just before the first checkpoint at which the watch says so.
-/

namespace ResourceMoves.Matching

open ResourceMoves.Plan (Candidate)

namespace Schedule

variable {judge : Judge} {deletes creates : List Candidate} {s s' : State} {e : Event}
  {es es' : List Event} {watch : Watch} {stage : Stage} {c : Checkpoint} {set t seen : Bool}
  {result : Except Refusal Matching}

/-! ### Runs that follow a watch -/

/-- Each reading of the flag is what the watch says. -/
def Follows (watch : Watch) (es : List Event) : Prop :=
  ∀ c set, .check c set ∈ es → set = watch c

theorem follows_cons :
    Follows watch (e :: es) ↔ (∀ c set, e = .check c set → set = watch c) ∧ Follows watch es := by
  simp only [Follows, List.mem_cons, or_imp, forall_and, eq_comm (a := e)]

/-- The flag was read when it was the slot's turn, and was not set. -/
def Slot.admitted : Slot → Bool
  | .waiting    => false
  | .running    => true
  | .refused    => false
  | .compared _ => true

/-- What the watch does not stop, when the work has come this far and follows it. -/
def Passed (watch : Watch) (judge : Judge) (deletes creates : List Candidate) : Stage → Prop
  | .addresses => True
  | .entry => True
  | .comparing slots => watch .entry = false ∧
      ∀ (i : Nat) (slot : Slot), slots[i]? = some slot → slot.admitted → watch (.pair i) = false
  | .taking comparisons _ i _ => watch .entry = false ∧
      (∀ j < comparisons.length, watch (.pair j) = false) ∧
      ∀ j < i, watch (.step comparisons.length j) = false
  | .ended result => result = .error .cancelled ∨ result = solve watch judge deletes creates

/-- What one step preserves when it follows the watch. -/
theorem Step.passed (hinv : Inv judge deletes creates seen s.stage)
    (hpassed : Passed watch judge deletes creates s.stage) (h : Step judge deletes creates s e s')
    (he : ∀ c set, e = .check c set → set = watch c) :
    Passed watch judge deletes creates s'.stage := by
  cases h with
  | cancel => exact hpassed
  | reject h => exact .inr (solve_of_checkBoth_error h).symm
  | accept => trivial
  | turnBack | giveUp | stop => exact .inl rfl
  | enter =>
      refine ⟨(he _ _ rfl).symm, fun i slot hi hslot => ?_⟩
      obtain rfl := List.eq_of_mem_replicate (List.mem_of_getElem? hi)
      cases hslot
  | refuse =>
      exact ⟨hpassed.1, forall_set hpassed.2 nofun⟩
  | start =>
      exact ⟨hpassed.1, forall_set hpassed.2 fun _ => (he _ _ rfl).symm⟩
  | compare h =>
      exact ⟨hpassed.1, forall_set hpassed.2 fun _ => hpassed.2 _ _ h rfl⟩
  | collect =>
      refine ⟨hpassed.1, fun j hj => ?_, fun j hj => absurd hj (Nat.not_lt_zero j)⟩
      exact hpassed.2 j _ (by rw [List.getElem?_map, List.getElem?_eq_getElem hj]; rfl) rfl
  | passOver | take =>
      refine ⟨hpassed.1, hpassed.2.1, fun j hj => ?_⟩
      rcases Nat.lt_succ_iff_lt_or_eq.1 hj with hj | rfl
      · exact hpassed.2.2 j hj
      · exact (he _ _ rfl).symm
  | deliver =>
      obtain ⟨rfl, ⟨hd, hc⟩, rfl, hlength, hfound⟩ := hinv
      obtain ⟨hentry, hpairs, hsteps⟩ := hpassed
      rw [chosen, List.append_nil] at hfound
      rw [List.length_nil, Nat.add_zero] at hlength
      rw [judge.length_comparisons] at hpairs hsteps hlength
      subst hfound hlength
      refine .inr (Eq.symm ?_)
      rw [solve_eq hd hc, if_neg]
      · rfl
      · simpa [Watch.interrupts, hentry] using ⟨hpairs, hsteps⟩

theorem Run.passed (hinv : Inv judge deletes creates seen s.stage)
    (hpassed : Passed watch judge deletes creates s.stage) (h : Run judge deletes creates s es s')
    (hes : Follows watch es) : Passed watch judge deletes creates s'.stage := by
  induction h generalizing seen with
  | refl => exact hpassed
  | more h _ ih =>
      obtain ⟨he, hes⟩ := follows_cons.1 hes
      exact ih (h.inv hinv) (h.passed hinv hpassed he) hes

theorem solve_of_check (hd : Unique deletes) (hc : Unique creates)
    (hmem : c ∈ moments (pairs deletes creates).length) (h : watch c = true) :
    solve watch judge deletes creates = .error .cancelled := by
  rw [solve_eq hd hc, interrupts_eq_any, if_pos (List.any_eq_true.2 ⟨c, hmem, h⟩)]

theorem solve_of_not_unique (h : ¬ (Unique deletes ∧ Unique creates)) :
    ∃ side a, ∀ watch judge, solve watch judge deletes creates = .error (.duplicate side a) := by
  cases hcheck : checkBoth deletes creates with
  | ok u => exact absurd (checkBoth_eq_ok_iff.1 hcheck) h
  | error refusal =>
      obtain ⟨side, a, rfl⟩ := checkBoth_eq_error hcheck
      exact ⟨side, a, fun _ _ => solve_of_checkBoth_error hcheck⟩

theorem solve_never_ne_cancelled : solve .never judge deletes creates ≠ .error .cancelled := by
  by_cases h : Unique deletes ∧ Unique creates
  · rw [solve_never h.1 h.2]
    nofun
  · obtain ⟨side, a, hsolve⟩ := solve_of_not_unique h
    rw [hsolve]
    nofun

/-- The work ends cancelled just when the flag was read and found set. -/
theorem Run.cancelled_iff (h : Run judge deletes creates .initial es ⟨t, .ended result⟩) :
    result = .error .cancelled ↔ ∃ c, .check c true ∈ es := by
  rw [← any_sees_iff, h.result_cases]
  cases es.any Event.sees with
  | true => exact iff_of_true rfl rfl
  | false => exact iff_of_false solve_never_ne_cancelled Bool.false_ne_true

/-- **Scheduling does not matter.**  A run that follows a watch ends with what solving gives under
it. -/
theorem Run.result_eq (h : Run judge deletes creates .initial es ⟨t, .ended result⟩)
    (hes : Follows watch es) : result = solve watch judge deletes creates := by
  rcases h.passed inv_initial trivial hes with hcancelled | hresult
  · obtain ⟨c, hc⟩ := h.cancelled_iff.1 hcancelled
    obtain ⟨⟨hd, hc'⟩, hmem⟩ := h.check_mem inv_initial hc
    rw [hcancelled, solve_of_check hd hc' hmem (hes c true hc).symm]
  · exact hresult

/-! ### When the flag is set -/

theorem Run.exists_split (h : Run judge deletes creates s (es ++ es') s') :
    ∃ s₁, Run judge deletes creates s es s₁ ∧ Run judge deletes creates s₁ es' s' := by
  induction es generalizing s with
  | nil => exact ⟨s, .refl s, h⟩
  | cons e es ih =>
      cases h with
      | more h hrest =>
          obtain ⟨s₁, h₁, h₂⟩ := ih hrest
          exact ⟨s₁, .more h h₁, h₂⟩

/-- A reading tells what the flag is. -/
theorem Step.check_eq_flag (h : Step judge deletes creates s (.check c set) s') : set = s.flag := by
  cases h <;> rfl

/-- The flag stays set. -/
theorem Step.flag_of_flag (h : Step judge deletes creates s e s') (hflag : s.flag = true) :
    s'.flag = true := by
  cases h <;> first | exact hflag | rfl

/-- Once the flag is set, each reading finds it set. -/
theorem Run.check_eq_true (h : Run judge deletes creates s es s') (hflag : s.flag = true)
    (hc : .check c set ∈ es) : set = true := by
  induction h with
  | refl => cases hc
  | more h _ ih =>
      rcases List.mem_cons.1 hc with rfl | hc
      · exact h.check_eq_flag.trans hflag
      · exact ih (h.flag_of_flag hflag) hc

/-- Unless the work ends cancelled, the flag is read at every checkpoint. -/
theorem Run.check_mem_of_ne_cancelled (hd : Unique deletes) (hc : Unique creates)
    (h : Run judge deletes creates .initial es ⟨t, .ended result⟩)
    (hresult : result ≠ .error .cancelled) (hmem : c ∈ moments (pairs deletes creates).length) :
    .check c false ∈ es := by
  by_contra hunread
  -- the watch that stops the work just where the flag was not read is followed
  have hfollows : Follows (fun c => decide (.check c false ∉ es)) es := by
    intro c set hset
    cases set with
    | true => exact absurd (h.cancelled_iff.2 ⟨c, hset⟩) hresult
    | false => exact (decide_eq_false (not_not_intro hset)).symm
  rw [h.result_eq hfollows] at hresult
  exact hresult (solve_of_check hd hc hmem (decide_eq_true hunread))

/-- **Cancelling is noticed** when it comes before the last reading of the flag. -/
theorem Run.cancelled_of_unread (hd : Unique deletes) (hc : Unique creates)
    (h : Run judge deletes creates .initial (es ++ .cancel :: es') ⟨t, .ended result⟩)
    (hmem : c ∈ moments (pairs deletes creates).length) (hunread : ∀ set, .check c set ∉ es) :
    result = .error .cancelled := by
  by_contra hresult
  obtain ⟨s₁, -, hrest⟩ := h.exists_split
  cases hrest with
  | @more _ s₂ _ _ _ hcancel hrest =>
      have hflag : s₂.flag = true := by
        cases hcancel
        rfl
      rcases List.mem_append.1 (h.check_mem_of_ne_cancelled hd hc hresult hmem) with hin | hin
      · exact hunread false hin
      · cases hrest.check_eq_true hflag ((List.mem_cons.1 hin).resolve_left nofun)

/-! ### Every watch is followed -/

/-- Where the flag is not yet set but may be read, setting it ends the work. -/
theorem Step.exists_cancelled (h : Step judge deletes creates ⟨false, stage⟩ (.check c false) s') :
    ∃ es, Run judge deletes creates ⟨false, stage⟩ es ⟨true, .ended (.error .cancelled)⟩ ∧
      ∀ c' set, .check c' set ∈ es → c' = c ∧ set = true := by
  cases h with
  | enter => exact ⟨_, .more .cancel (.more .turnBack (.refl _)), by simp⟩
  | start h =>
      have hrefused := List.mem_set (List.getElem?_eq_some_iff.1 h).1 Slot.refused
      exact ⟨_, .more .cancel (.more (.refuse h) (.more (.giveUp hrefused) (.refl _))), by simp⟩
  | passOver | take => exact ⟨_, .more .cancel (.more .stop (.refl _)), by simp⟩

/-- From where the flag is not set, the work can be brought to its end as any watch says. -/
theorem Inv.exists_following (hinv : Inv judge deletes creates seen stage) (watch : Watch) :
    ∃ es t result, Run judge deletes creates ⟨false, stage⟩ es ⟨t, .ended result⟩ ∧
      Follows watch es := by
  induction hn : stage.left (pairs deletes creates).length using Nat.strong_induction_on
    generalizing stage seen with
  | _ n ih =>
      rcases hinv.exists_step false with ⟨result, rfl⟩ | ⟨e, stage', hstep, he⟩
      · exact ⟨[], false, result, .refl _, nofun⟩
      · by_cases hfollows : ∀ c set, e = .check c set → set = watch c
        · have hless : stage'.left _ < stage.left _ := Nat.lt_of_add_lt_add_right hstep.left_lt
          obtain ⟨es, t, result, hrun, hes⟩ := ih _ (hn ▸ hless) (hstep.inv hinv) rfl
          exact ⟨e :: es, t, result, .more hstep hrun, follows_cons.2 ⟨hfollows, hes⟩⟩
        · -- the flag is not set where the watch says that it is read as set
          push Not at hfollows
          obtain ⟨c, set, rfl, hset⟩ := hfollows
          obtain rfl : set = false := hstep.check_eq_flag
          obtain ⟨es, hrun, hes⟩ := hstep.exists_cancelled
          refine ⟨es, true, _, hrun, fun c' set hc' => ?_⟩
          obtain ⟨rfl, rfl⟩ := hes c' set hc'
          exact (Bool.eq_true_of_not_eq_false hset.symm).symm

end Schedule

/-! ### Solving -/

open Schedule

variable {judge : Judge} {deletes creates : List Candidate}

theorem afterPairs_eq_true_iff {n : Nat} {c : Checkpoint} :
    Watch.afterPairs n c = true ↔ n ≤ c.compared :=
  decide_eq_true_iff

theorem interrupts_afterPairs_iff {n p : Nat} :
    (Watch.afterPairs n).interrupts p = true ↔ n ≤ p := by
  simp only [Watch.interrupts, Bool.or_eq_true, List.any_eq_true, List.mem_range,
    afterPairs_eq_true_iff, Checkpoint.compared]
  constructor
  · rintro ((h | ⟨i, hi, h⟩) | ⟨i, -, h⟩)
    · exact h.trans (Nat.zero_le p)
    · exact h.trans hi.le
    · exact h
  · intro h
    rcases Nat.eq_zero_or_pos p with rfl | hp
    · exact .inl (.inl h)
    · -- when the last pair has been compared, the first comparison is still to be taken
      exact .inr ⟨0, hp, h⟩

/-- Cancelling after `n` pairs stops the work unless there are fewer. -/
theorem solve_afterPairs_eq_cancelled_iff (hd : Unique deletes) (hc : Unique creates) {n : Nat} :
    solve (.afterPairs n) judge deletes creates = .error .cancelled ↔
      n ≤ (pairs deletes creates).length := by
  rw [solve_eq hd hc, ← interrupts_afterPairs_iff]
  split <;> simp [*]

/-- The shared work may end with `result` in the course of these events. -/
def Ends (judge : Judge) (deletes creates : List Candidate) (es : List Event)
    (result : Except Refusal Matching) : Prop :=
  ∃ flag, Run judge deletes creates .initial es ⟨flag, .ended result⟩

/-- **Cancellation is all or nothing, and scheduling does not matter.**  However the work is shared
and whenever the flag is set:
* the work ends cancelled just when the flag was read and found set, and it ends with what solving
  gives under any watch that says what was read;
* it ends after so many steps at most, and until then it can go on without the flag being set;
* what solving gives under a watch, the work ends with in some run that follows the watch;
* for unique addresses, it ends cancelled or with the one matching that solving gives when nothing
  stops it; it is cancelled when the flag is set before it is read at the last checkpoint; and
  solving is cancelled after `n` pairs just when there are so many;
* a repeated address is refused, whatever the flag. -/
theorem solve_cancellation (judge : Judge) (deletes creates : List Candidate) :
    (∀ es result, Ends judge deletes creates es result →
      (result = .error .cancelled ↔ ∃ c, .check c true ∈ es) ∧
      ∀ watch, Follows watch es → result = solve watch judge deletes creates) ∧
    (∀ es s, Run judge deletes creates .initial es s →
      es.length ≤ 3 * (pairs deletes creates).length + 5 ∧
      ∃ es' flag result, Run judge deletes creates s es' ⟨flag, .ended result⟩ ∧ .cancel ∉ es') ∧
    (∀ watch, ∃ es, Ends judge deletes creates es (solve watch judge deletes creates) ∧
      Follows watch es) ∧
    (Unique deletes → Unique creates → ∃ m, solve .never judge deletes creates = .ok m ∧
      (∀ es result, Ends judge deletes creates es result →
        result = .error .cancelled ∨ result = .ok m) ∧
      (∀ es es' result, Ends judge deletes creates (es ++ .cancel :: es') result →
        (∃ c ∈ moments (pairs deletes creates).length, ∀ set, .check c set ∉ es) →
        result = .error .cancelled) ∧
      ∀ n, solve (.afterPairs n) judge deletes creates = .error .cancelled ↔
        n ≤ (pairs deletes creates).length) ∧
    (¬ (Unique deletes ∧ Unique creates) → ∃ side a,
      (∀ watch, solve watch judge deletes creates = .error (.duplicate side a)) ∧
      ∀ es result, Ends judge deletes creates es result → result = .error (.duplicate side a)) := by
  refine ⟨fun es result ⟨_, h⟩ => ⟨h.cancelled_iff, fun watch hes => h.result_eq hes⟩,
    fun es s h => ⟨?_, (h.inv inv_initial).exists_end⟩, fun watch => ?_, fun hd hc => ?_,
    fun hunique => ?_⟩
  · exact (Nat.le_add_right _ _).trans h.length_le
  · obtain ⟨es, t, result, hrun, hes⟩ :=
      (inv_initial : Inv judge deletes creates _ _).exists_following watch
    exact ⟨es, ⟨t, hrun.result_eq hes ▸ hrun⟩, hes⟩
  · refine ⟨_, solve_never hd hc, fun es result ⟨_, h⟩ => ?_, fun es es' result ⟨_, h⟩ => ?_,
      fun n => solve_afterPairs_eq_cancelled_iff hd hc⟩
    · rw [h.result_cases, solve_never hd hc]
      exact ite_eq_or_eq _ _ _
    · rintro ⟨c, hmem, hunread⟩
      exact h.cancelled_of_unread hd hc hmem hunread
  · obtain ⟨side, a, hsolve⟩ := solve_of_not_unique hunique
    refine ⟨side, a, fun watch => hsolve watch judge, fun es result ⟨_, h⟩ => ?_⟩
    -- the flag is not read at all, so any watch is followed
    rw [h.result_eq fun c set hc => absurd (h.check_mem inv_initial hc).1 hunique]
    exact hsolve .never judge

/-- Of four pairs the fourth may be the last before the flag is set, not the fifth; and a repeated
address comes first. -/
theorem solve_cancellation_crossing :
    solve (.afterPairs 4) crossing [bare .delete "t.d1", bare .delete "t.d2"]
        [bare .create "t.c1", bare .create "t.c2"] = .error .cancelled ∧
      (∃ es c, Ends crossing [bare .delete "t.d1", bare .delete "t.d2"]
        [bare .create "t.c1", bare .create "t.c2"] es (.error .cancelled) ∧ .check c true ∈ es) ∧
      solve (.afterPairs 5) crossing [bare .delete "t.d1", bare .delete "t.d2"]
        [bare .create "t.c1", bare .create "t.c2"] ≠ .error .cancelled ∧
      ∃ side a, ∀ watch, solve watch crossing [bare .delete "t.d1", bare .delete "t.d1"]
        [bare .create "t.c1"] = .error (.duplicate side a) := by
  obtain ⟨hends, -, hfollowed, hunique, -⟩ := solve_cancellation crossing
    [bare .delete "t.d1", bare .delete "t.d2"] [bare .create "t.c1", bare .create "t.c2"]
  obtain ⟨-, -, -, -, hafter⟩ := hunique (by decide) (by decide)
  have hfour := (hafter 4).2 (by decide)
  have hfive := mt (hafter 5).1 (by decide)
  obtain ⟨es, hes, -⟩ := hfollowed (.afterPairs 4)
  rw [hfour] at hes
  obtain ⟨c, hc⟩ := (hends es _ hes).1.1 rfl
  obtain ⟨-, -, -, -, hrepeat⟩ := solve_cancellation crossing
    [bare .delete "t.d1", bare .delete "t.d1"] [bare .create "t.c1"]
  obtain ⟨side, a, hsolve, -⟩ := hrepeat (by decide)
  exact ⟨hfour, ⟨es, c, hes, hc⟩, hfive, side, a, hsolve⟩

end ResourceMoves.Matching
