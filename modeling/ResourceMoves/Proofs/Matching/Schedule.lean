import Mathlib.Algebra.GroupWithZero.Nat
import ResourceMoves.Proofs.Matching.Solve

/-!
# Matching — work that is shared and may be cancelled

The pairs may be compared by several workers, in any order and several at a time, and a flag that
all of them read may be set at any moment.  `Step` is one step of such work: before a pair is
compared the flag is read, and a pair that finds it set is refused; once a pair is refused the
others need not be waited for; when all are compared, the comparisons are taken one by one, and
before each the flag is read again.  A `Run` lists what happens, each reading of the flag with the
checkpoint that it stands for.  `solve` is the one of these schedules that takes the pairs in order.

What one step preserves (`Step.inv`) gives what a run ends with: as long as no reading of the flag
saw it set, each slot holds the comparison of its own pair, so what is collected does not depend on
the schedule, and what is taken so far and what will be taken is what solving finds.
**Cancellation is all or nothing** (`Run.result_cases`): the work ends cancelled, or with what
`solve` gives when nobody can stop it.

**The work ends** (`Run.length_le`, `Inv.exists_end`): each step leaves less to do, and as long as
the work has not ended there is a step.
-/

namespace ResourceMoves.Matching.Schedule

open ResourceMoves.Plan (Candidate)

/-- What has become of a pair: it waits, it is being compared, the flag was set when it was its
turn, or it has been compared. -/
inductive Slot
  | waiting
  | running
  | refused
  | compared (x : Comparison)

/-- How far the work is.  While comparisons are taken, `i` of them have been looked at, and `rest`
are left in order of rank. -/
inductive Stage
  | addresses
  | entry
  | comparing (slots : List Slot)
  | taking (comparisons found : List Comparison) (i : Nat) (rest : List Comparison)
  | ended (result : Except Refusal Matching)

/-- The flag that stops the work, and how far the work is. -/
structure State where
  flag  : Bool
  stage : Stage

/-- What may happen: the flag is set, the flag is read at a checkpoint, or some work is done. -/
inductive Event
  | cancel
  | check (c : Checkpoint) (set : Bool)
  | work
  deriving DecidableEq

/-- The flag is read and found set. -/
def Event.sees : Event → Bool
  | .check _ set => set
  | _            => false

/-- The work before it begins. -/
def State.initial : State := ⟨false, .addresses⟩

/-- No address is repeated, on the side of the deletes first. -/
def checkBoth (deletes creates : List Candidate) : Except Refusal Unit := do
  checkUnique .delete deletes
  checkUnique .create creates

/-- The matching of what was found among the comparisons. -/
def assemble (deletes creates : List Candidate) (comparisons found : List Comparison) :
    Matching where
  found            := found
  unmatchedDeletes := unmatched (·.delete) found deletes
  unmatchedCreates := unmatched (·.create) found creates
  comparisons      := comparisons

/-- One step of the work. -/
inductive Step (judge : Judge) (deletes creates : List Candidate) : State → Event → State → Prop
  | cancel {stage : Stage} : Step judge deletes creates ⟨false, stage⟩ .cancel ⟨true, stage⟩
  | reject {t : Bool} {refusal : Refusal} (h : checkBoth deletes creates = .error refusal) :
      Step judge deletes creates ⟨t, .addresses⟩ .work ⟨t, .ended (.error refusal)⟩
  | accept {t : Bool} (h : checkBoth deletes creates = .ok ()) :
      Step judge deletes creates ⟨t, .addresses⟩ .work ⟨t, .entry⟩
  | turnBack : Step judge deletes creates ⟨true, .entry⟩ (.check .entry true)
      ⟨true, .ended (.error .cancelled)⟩
  | enter : Step judge deletes creates ⟨false, .entry⟩ (.check .entry false)
      ⟨false, .comparing (.replicate (pairs deletes creates).length .waiting)⟩
  | refuse {slots : List Slot} {i : Nat} (h : slots[i]? = some .waiting) :
      Step judge deletes creates ⟨true, .comparing slots⟩ (.check (.pair i) true)
        ⟨true, .comparing (slots.set i .refused)⟩
  | start {slots : List Slot} {i : Nat} (h : slots[i]? = some .waiting) :
      Step judge deletes creates ⟨false, .comparing slots⟩ (.check (.pair i) false)
        ⟨false, .comparing (slots.set i .running)⟩
  | compare {t : Bool} {slots : List Slot} {i : Nat} {p : Candidate × Candidate}
      (h : slots[i]? = some .running) (hp : (pairs deletes creates)[i]? = some p) :
      Step judge deletes creates ⟨t, .comparing slots⟩ .work
        ⟨t, .comparing (slots.set i (.compared (judge.compare p.1 p.2)))⟩
  | giveUp {t : Bool} {slots : List Slot} (h : .refused ∈ slots) :
      Step judge deletes creates ⟨t, .comparing slots⟩ .work ⟨t, .ended (.error .cancelled)⟩
  | collect {t : Bool} {comparisons : List Comparison} :
      Step judge deletes creates ⟨t, .comparing (comparisons.map .compared)⟩ .work
        ⟨t, .taking comparisons [] 0 (Comparison.ranked comparisons)⟩
  | stop {comparisons found rest : List Comparison} {i : Nat} {c : Comparison} :
      Step judge deletes creates ⟨true, .taking comparisons found i (c :: rest)⟩
        (.check (.step comparisons.length i) true) ⟨true, .ended (.error .cancelled)⟩
  | passOver {comparisons found rest : List Comparison} {i : Nat} {c : Comparison}
      (h : found.any c.clashes = true) :
      Step judge deletes creates ⟨false, .taking comparisons found i (c :: rest)⟩
        (.check (.step comparisons.length i) false) ⟨false, .taking comparisons found (i + 1) rest⟩
  | take {comparisons found rest : List Comparison} {i : Nat} {c : Comparison}
      (h : found.any c.clashes = false) :
      Step judge deletes creates ⟨false, .taking comparisons found i (c :: rest)⟩
        (.check (.step comparisons.length i) false)
        ⟨false, .taking comparisons (found ++ [c]) (i + 1) rest⟩
  | deliver {t : Bool} {comparisons found : List Comparison} {i : Nat} :
      Step judge deletes creates ⟨t, .taking comparisons found i []⟩ .work
        ⟨t, .ended (.ok (assemble deletes creates comparisons found))⟩

/-- Steps one after the other, with what happens at each. -/
inductive Run (judge : Judge) (deletes creates : List Candidate) :
    State → List Event → State → Prop
  | refl (s : State) : Run judge deletes creates s [] s
  | more {s s₁ s' : State} {e : Event} {es : List Event} (h : Step judge deletes creates s e s₁)
      (t : Run judge deletes creates s₁ es s') : Run judge deletes creates s (e :: es) s'

variable {judge : Judge} {deletes creates : List Candidate} {s s' : State} {e : Event}
  {es : List Event} {watch : Watch} {n : Nat}

/-! ### Addresses -/

theorem checkBoth_eq_ok_iff :
    checkBoth deletes creates = .ok () ↔ Unique deletes ∧ Unique creates := by
  rw [checkBoth, bind_eq_ok_iff, ← checkUnique_eq_ok_iff, ← checkUnique_eq_ok_iff]
  exact ⟨fun ⟨(), hd, hc⟩ => ⟨hd, hc⟩, fun ⟨hd, hc⟩ => ⟨(), hd, hc⟩⟩

theorem checkUnique_eq_error {side : Plan.Side} {candidates : List Candidate} {refusal : Refusal}
    (h : checkUnique side candidates = .error refusal) : ∃ a, refusal = .duplicate side a := by
  unfold checkUnique at h
  split at h
  case h_1 a _ => exact ⟨a, (Except.error.inj h).symm⟩
  case h_2 => cases h

theorem checkBoth_eq_error {refusal : Refusal}
    (h : checkBoth deletes creates = .error refusal) : ∃ side a, refusal = .duplicate side a := by
  cases hd : checkUnique .delete deletes with
  | error r =>
      rw [checkBoth, hd] at h
      cases h
      exact ⟨_, checkUnique_eq_error hd⟩
  | ok u =>
      rw [checkBoth, hd] at h
      exact ⟨_, checkUnique_eq_error h⟩

theorem solve_of_checkBoth_error {refusal : Refusal}
    (h : checkBoth deletes creates = .error refusal) :
    solve watch judge deletes creates = .error refusal := by
  cases hd : checkUnique .delete deletes with
  | error r =>
      rw [checkBoth, hd] at h
      rw [solve, hd]
      cases h
      rfl
  | ok u =>
      rw [checkBoth, hd] at h
      have hc : checkUnique .create creates = .error refusal := h
      rw [solve, hd, hc]
      rfl

/-! ### The moments at which the flag is read -/

/-- The checkpoints of solving so many pairs, in order. -/
def moments (n : Nat) : List Checkpoint :=
  .entry :: ((List.range n).map .pair ++ (List.range n).map (.step n))

theorem mem_moments_pair {i : Nat} : .pair i ∈ moments n ↔ i < n := by
  simp [moments]

theorem mem_moments_step {m i : Nat} : .step m i ∈ moments n ↔ m = n ∧ i < n := by
  simp [moments]
  omega

theorem interrupts_eq_any (watch : Watch) (n : Nat) : watch.interrupts n = (moments n).any watch := by
  simp [Watch.interrupts, moments, Function.comp_def, Bool.or_assoc]

/-! ### What one step preserves -/

/-- Each slot that holds a comparison holds that of its own pair. -/
structure Fits (comparisons : List Comparison) (slots : List Slot) : Prop where
  length   : slots.length = comparisons.length
  compared : ∀ (i : Nat) (slot : Slot), slots[i]? = some slot →
    ∀ x, slot = .compared x → comparisons[i]? = some x

/-- What is so at each stage, `seen` being whether the flag was ever read and found set. -/
def Inv (judge : Judge) (deletes creates : List Candidate) (seen : Bool) : Stage → Prop
  | .addresses => seen = false
  | .entry => seen = false ∧ Unique deletes ∧ Unique creates
  | .comparing slots => (Unique deletes ∧ Unique creates) ∧
      Fits (judge.comparisons deletes creates) slots ∧ (.refused ∈ slots ↔ seen = true)
  | .taking comparisons found i rest => seen = false ∧ (Unique deletes ∧ Unique creates) ∧
      comparisons = judge.comparisons deletes creates ∧ i + rest.length = comparisons.length ∧
      found ++ chosen found rest = judge.found deletes creates
  | .ended result =>
      result = if seen then .error .cancelled else solve .never judge deletes creates

/-- What is so of each slot stays so when one of them is overwritten by a slot of which it is so. -/
theorem forall_set {P : Nat → Slot → Prop} {slots : List Slot} {i : Nat} {new : Slot}
    (h : ∀ (j : Nat) (slot : Slot), slots[j]? = some slot → P j slot) (hnew : P i new) :
    ∀ (j : Nat) (slot : Slot), (slots.set i new)[j]? = some slot → P j slot := by
  intro j slot hj
  rw [List.getElem?_set] at hj
  by_cases e : i = j
  · subst e
    rw [if_pos rfl] at hj
    split at hj
    · exact Option.some.inj hj ▸ hnew
    · cases hj
  · rw [if_neg e] at hj
    exact h j slot hj

theorem Fits.set {comparisons : List Comparison} {slots : List Slot} {i : Nat} {new : Slot}
    (h : Fits comparisons slots) (hnew : ∀ x, new = .compared x → comparisons[i]? = some x) :
    Fits comparisons (slots.set i new) where
  length := by rw [List.length_set, h.length]
  compared := forall_set h.compared hnew

theorem Fits.eq_of_map {comparisons cs : List Comparison}
    (h : Fits comparisons (cs.map .compared)) : cs = comparisons := by
  have hlength : cs.length = comparisons.length := by simpa using h.length
  refine List.ext_getElem hlength fun i hi hi' => ?_
  have hget := h.compared i _ (List.getElem?_eq_getElem (by simpa using hi)) cs[i] (by simp)
  rw [List.getElem?_eq_getElem hi', Option.some.injEq] at hget
  exact hget.symm

/-- Overwriting a slot that is not refused by another refuses none. -/
theorem refused_mem_set_iff {slots : List Slot} {i : Nat} {old new : Slot}
    (h : slots[i]? = some old) (hold : old ≠ .refused) (hnew : new ≠ .refused) :
    .refused ∈ slots.set i new ↔ .refused ∈ slots := by
  simp only [List.mem_iff_getElem?, List.getElem?_set]
  refine exists_congr fun j => ?_
  by_cases e : i = j
  · subst e
    rw [if_pos rfl, h]
    split <;> simp [hold, hnew]
  · rw [if_neg e]

/-- **What one step preserves.** -/
theorem Step.inv {seen : Bool} (hinv : Inv judge deletes creates seen s.stage)
    (h : Step judge deletes creates s e s') :
    Inv judge deletes creates (seen || e.sees) s'.stage := by
  cases h with
  | cancel => simpa [Event.sees] using hinv
  | reject h =>
      simp only [Inv] at hinv
      simp [Inv, Event.sees, hinv, solve_of_checkBoth_error h]
  | accept h =>
      simp only [Inv] at hinv
      simpa [Inv, Event.sees, hinv] using checkBoth_eq_ok_iff.1 h
  | turnBack => simp [Inv, Event.sees]
  | enter =>
      obtain ⟨rfl, hunique⟩ := hinv
      refine ⟨hunique, ⟨by simp [judge.length_comparisons], fun i slot hi x e => ?_⟩, by simp [Event.sees]⟩
      have hwaiting := List.eq_of_mem_replicate (List.mem_of_getElem? hi)
      cases hwaiting.symm.trans e
  | refuse h =>
      obtain ⟨hunique, hfits, -⟩ := hinv
      refine ⟨hunique, hfits.set nofun, ?_⟩
      have hlt := (List.getElem?_eq_some_iff.1 h).1
      simp [Event.sees, List.mem_set, hlt]
  | start h =>
      obtain ⟨hunique, hfits, hseen⟩ := hinv
      refine ⟨hunique, hfits.set nofun, ?_⟩
      rw [refused_mem_set_iff h (by simp) (by simp)]
      simpa [Event.sees] using hseen
  | compare h hp =>
      obtain ⟨hunique, hfits, hseen⟩ := hinv
      refine ⟨hunique, hfits.set fun x e => ?_, ?_⟩
      · cases e
        simp [Judge.comparisons, hp]
      · rw [refused_mem_set_iff h (by simp) (by simp)]
        simpa [Event.sees] using hseen
  | giveUp h =>
      obtain ⟨-, -, hseen⟩ := hinv
      simp [Inv, Event.sees, hseen.1 h]
  | collect =>
      obtain ⟨hunique, hfits, hseen⟩ := hinv
      obtain rfl := hfits.eq_of_map
      refine ⟨by simpa [Event.sees] using hseen, hunique, rfl, ?_, rfl⟩
      rw [Nat.zero_add, (Comparison.ranked_perm _).length_eq]
  | stop => simp [Inv, Event.sees]
  | passOver h =>
      obtain ⟨rfl, hunique, rfl, hlength, hfound⟩ := hinv
      refine ⟨rfl, hunique, rfl, by simpa [Nat.add_right_comm, Nat.add_assoc] using hlength, ?_⟩
      rwa [chosen_of_clash h] at hfound
  | take h =>
      obtain ⟨rfl, hunique, rfl, hlength, hfound⟩ := hinv
      refine ⟨rfl, hunique, rfl, by simpa [Nat.add_right_comm, Nat.add_assoc] using hlength, ?_⟩
      -- for what is chosen after it, it does not matter where `c` stands among what is found
      rw [chosen_of_free h] at hfound
      rw [← hfound, List.append_assoc, List.singleton_append]
      refine congrArg _ (congrArg _ (chosen_congr fun x _ => ?_))
      simp [Bool.or_comm]
  | deliver =>
      obtain ⟨rfl, ⟨hd, hc⟩, rfl, -, hfound⟩ := hinv
      rw [chosen, List.append_nil] at hfound
      subst hfound
      exact (solve_never hd hc).symm

/-- The flag is read only when the addresses are unique, and at the checkpoints of solving. -/
theorem Step.check_mem {seen : Bool} {c : Checkpoint} {set : Bool}
    (hinv : Inv judge deletes creates seen s.stage)
    (h : Step judge deletes creates s (.check c set) s') :
    (Unique deletes ∧ Unique creates) ∧ c ∈ moments (pairs deletes creates).length := by
  cases h with
  | turnBack => exact ⟨hinv.2, List.mem_cons_self⟩
  | enter => exact ⟨hinv.2, List.mem_cons_self⟩
  | refuse h | start h =>
      obtain ⟨hunique, hfits, -⟩ := hinv
      have hlt := (List.getElem?_eq_some_iff.1 h).1
      exact ⟨hunique, mem_moments_pair.2 (by rwa [← judge.length_comparisons, ← hfits.length])⟩
  | stop | passOver | take =>
      obtain ⟨-, hunique, rfl, hlength, -⟩ := hinv
      rw [List.length_cons, judge.length_comparisons] at hlength
      exact ⟨hunique, mem_moments_step.2 ⟨judge.length_comparisons, by omega⟩⟩

/-! ### What a run preserves -/

theorem Run.inv {seen : Bool} (hinv : Inv judge deletes creates seen s.stage)
    (h : Run judge deletes creates s es s') :
    Inv judge deletes creates (seen || es.any Event.sees) s'.stage := by
  induction h generalizing seen with
  | refl => simpa using hinv
  | more h _ ih =>
      rw [List.any_cons, ← Bool.or_assoc]
      exact ih (h.inv hinv)

theorem Run.check_mem {seen : Bool} {c : Checkpoint} {set : Bool}
    (hinv : Inv judge deletes creates seen s.stage) (h : Run judge deletes creates s es s')
    (hc : .check c set ∈ es) :
    (Unique deletes ∧ Unique creates) ∧ c ∈ moments (pairs deletes creates).length := by
  induction h generalizing seen with
  | refl => cases hc
  | more h _ ih =>
      rcases List.mem_cons.1 hc with rfl | hc
      · exact h.check_mem hinv
      · exact ih (h.inv hinv) hc

theorem any_sees_iff : es.any Event.sees = true ↔ ∃ c, .check c true ∈ es := by
  rw [List.any_eq_true]
  constructor
  · rintro ⟨e, he, hsees⟩
    cases e with
    | check c set => exact ⟨c, by rwa [← show set = true from hsees]⟩
    | cancel | work => cases hsees
  · rintro ⟨c, hc⟩
    exact ⟨_, hc, rfl⟩

theorem inv_initial : Inv judge deletes creates false State.initial.stage := rfl

variable {t : Bool} {result : Except Refusal Matching}

/-- The work ends cancelled just when the flag was read and found set, and else as if nobody could
set it. -/
theorem Run.result_cases (h : Run judge deletes creates .initial es ⟨t, .ended result⟩) :
    result = if es.any Event.sees then .error .cancelled else solve .never judge deletes creates :=
  h.inv inv_initial

/-! ### The work ends -/

/-- How many steps a slot needs at most. -/
def Slot.left : Slot → Nat
  | .waiting    => 2
  | .running    => 1
  | .refused    => 0
  | .compared _ => 0

/-- How many steps of work are left at most, when there are `n` pairs. -/
def Stage.left (n : Nat) : Stage → Nat
  | .addresses         => 3 * n + 4
  | .entry             => 3 * n + 3
  | .comparing slots   => (slots.map Slot.left).sum + slots.length + 2
  | .taking _ _ _ rest => rest.length + 1
  | .ended _           => 0

/-- How many steps are left at most, the setting of the flag among them. -/
def State.left (n : Nat) (s : State) : Nat := s.stage.left n + if s.flag then 0 else 1

theorem sum_left_set_lt {slots : List Slot} {i : Nat} {old : Slot} (new : Slot)
    (h : slots[i]? = some old) (hless : new.left < old.left) :
    ((slots.set i new).map Slot.left).sum < (slots.map Slot.left).sum := by
  induction slots generalizing i with
  | nil => cases h
  | cons slot slots ih =>
      cases i with
      | zero =>
          cases h
          simpa using hless
      | succ i => simpa using ih h

/-- Each step leaves less to do. -/
theorem Step.left_lt (h : Step judge deletes creates s e s') :
    s'.left (pairs deletes creates).length < s.left (pairs deletes creates).length := by
  cases h with
  | cancel => simp [State.left]
  | reject | accept | turnBack | giveUp | stop | passOver | take | deliver =>
      simp [State.left, Stage.left]
  | enter =>
      simp [State.left, Stage.left, Slot.left]
      omega
  | refuse h =>
      have hless := sum_left_set_lt .refused h (by decide)
      simp only [State.left, Stage.left, List.length_set]
      omega
  | start h =>
      have hless := sum_left_set_lt .running h (by decide)
      simp only [State.left, Stage.left, List.length_set]
      omega
  | @compare _ _ _ p h =>
      have hless := sum_left_set_lt (.compared (judge.compare p.1 p.2)) h Nat.zero_lt_one
      simp only [State.left, Stage.left, List.length_set]
      omega
  | collect =>
      simp only [State.left, Stage.left, (Comparison.ranked_perm _).length_eq, List.length_map]
      omega

/-- A run is no longer than what was left to do before it. -/
theorem Run.length_le (h : Run judge deletes creates s es s') :
    es.length + s'.left (pairs deletes creates).length ≤
      s.left (pairs deletes creates).length := by
  induction h with
  | refl => simp
  | more h _ ih =>
      have := h.left_lt
      rw [List.length_cons]
      omega

/-- Slots either hold comparisons, or one of them waits, is being worked on or is refused. -/
theorem slots_cases (slots : List Slot) :
    (∃ comparisons : List Comparison, slots = comparisons.map Slot.compared) ∨
      (∃ i : Nat, slots[i]? = some Slot.waiting) ∨ (∃ i : Nat, slots[i]? = some Slot.running) ∨
        Slot.refused ∈ slots := by
  induction slots with
  | nil => exact .inl ⟨[], rfl⟩
  | cons slot slots ih =>
      cases slot with
      | waiting => exact .inr (.inl ⟨0, rfl⟩)
      | running => exact .inr (.inr (.inl ⟨0, rfl⟩))
      | refused => exact .inr (.inr (.inr List.mem_cons_self))
      | compared x =>
          rcases ih with ⟨comparisons, rfl⟩ | ⟨i, hi⟩ | ⟨i, hi⟩ | hmem
          · exact .inl ⟨x :: comparisons, rfl⟩
          · exact .inr (.inl ⟨i + 1, hi⟩)
          · exact .inr (.inr (.inl ⟨i + 1, hi⟩))
          · exact .inr (.inr (.inr (List.mem_cons_of_mem _ hmem)))

/-- As long as the work has not ended there is a step, and one that leaves the flag alone. -/
theorem Inv.exists_step {seen : Bool} {stage : Stage}
    (hinv : Inv judge deletes creates seen stage) (flag : Bool) :
    (∃ result, stage = .ended result) ∨
      ∃ e stage', Step judge deletes creates ⟨flag, stage⟩ e ⟨flag, stage'⟩ ∧ e ≠ .cancel := by
  cases stage with
  | ended result => exact .inl ⟨result, rfl⟩
  | addresses =>
      cases h : checkBoth deletes creates with
      | error refusal => exact .inr ⟨_, _, .reject h, nofun⟩
      | ok u => exact .inr ⟨_, _, .accept h, nofun⟩
  | entry =>
      cases flag with
      | true => exact .inr ⟨_, _, .turnBack, nofun⟩
      | false => exact .inr ⟨_, _, .enter, nofun⟩
  | comparing slots =>
      rcases slots_cases slots with ⟨comparisons, rfl⟩ | ⟨i, hi⟩ | ⟨i, hi⟩ | hmem
      · exact .inr ⟨_, _, .collect, nofun⟩
      · cases flag with
        | true => exact .inr ⟨_, _, .refuse hi, nofun⟩
        | false => exact .inr ⟨_, _, .start hi, nofun⟩
      · have hlt := (List.getElem?_eq_some_iff.1 hi).1
        rw [hinv.2.1.length, judge.length_comparisons] at hlt
        exact .inr ⟨_, _, .compare hi (List.getElem?_eq_getElem hlt), nofun⟩
      · exact .inr ⟨_, _, .giveUp hmem, nofun⟩
  | taking comparisons found i rest =>
      cases rest with
      | nil => exact .inr ⟨_, _, .deliver, nofun⟩
      | cons c rest =>
          cases flag with
          | true => exact .inr ⟨_, _, .stop, nofun⟩
          | false =>
              cases h : found.any c.clashes with
              | true => exact .inr ⟨_, _, .passOver h, nofun⟩
              | false => exact .inr ⟨_, _, .take h, nofun⟩

/-- Whatever has happened so far, the work can be brought to its end, and nobody has to set the flag
for that. -/
theorem Inv.exists_end {seen : Bool} (hinv : Inv judge deletes creates seen s.stage) :
    ∃ es t result, Run judge deletes creates s es ⟨t, .ended result⟩ ∧ .cancel ∉ es := by
  induction hn : s.left (pairs deletes creates).length using Nat.strong_induction_on
    generalizing s seen with
  | _ n ih =>
      obtain ⟨flag, stage⟩ := s
      rcases hinv.exists_step flag with ⟨result, rfl⟩ | ⟨e, stage', hstep, he⟩
      · exact ⟨[], flag, result, .refl _, List.not_mem_nil⟩
      · obtain ⟨es, t, result, hrun, hes⟩ := ih _ (hn ▸ hstep.left_lt) (hstep.inv hinv) rfl
        exact ⟨e :: es, t, result, .more hstep hrun, List.not_mem_cons_of_ne_of_not_mem he.symm hes⟩

end ResourceMoves.Matching.Schedule
