import ResourceMoves.Proofs.Run.Faults
import ResourceMoves.Proofs.Version

/-!
# Runs — calls of the planner

The calls of a run follow a script that its settings and options fix (`Run.script`): first the
question for the version, if blocks are asked for, and then the three calls that make a plan, if none
is given.  Work that keeps to a script (`Work.Keeps`) makes a first part of its calls, each only when
all before have gone well, and the parts of work that keep to theirs keep to one together
(`Work.Keeps.bind`).  **A run fails before it does anything in vain** (`run_fails_fast`): what is
wrong with its settings, a text that is no rule among it, stops it before the first call, and a call
that goes wrong is the last.  That is so on every system, whatever its readers make of a text.
-/

namespace ResourceMoves

namespace Work

variable {α β : Type} {passes : Call → Prop} {script rest : List Call} {w : Work α}

/-- The calls of work are a first part of a script; all before a call pass; and there is no result
unless all in the script have been made and pass. -/
structure Keeps (passes : Call → Prop) (script : List Call) (w : Work α) : Prop where
  calls   : w.calls <+: script
  earlier : w.calls.Pairwise fun c _ => passes c
  whole   : ∀ a, w.result = .ok a → w.calls = script ∧ ∀ c ∈ script, passes c

/-- Work without a call keeps to the empty script. -/
theorem keeps_nil (h : w.calls = []) : w.Keeps passes [] where
  calls   := h ▸ List.nil_prefix
  earlier := h ▸ .nil
  whole   := fun _ _ => ⟨h, fun _ hc => nomatch hc⟩

/-- A single call is never too early. -/
theorem keeps_singleton {c : Call} (h : w.calls <+: [c])
    (hresult : ∀ a, w.result = .ok a → w.calls = [c] ∧ passes c) : w.Keeps passes [c] where
  calls := h
  earlier := .sublist h.sublist (List.pairwise_singleton _ c)
  whole a ha := by
    obtain ⟨hcalls, hc⟩ := hresult a ha
    refine ⟨hcalls, fun d hd => ?_⟩
    rwa [List.mem_singleton.1 hd]

/-- Work and the work that its result asks for keep to their scripts one after the other. -/
theorem Keeps.bind {next : α → Work β} (h : w.Keeps passes script)
    (hnext : ∀ a, w.result = .ok a → (next a).Keeps passes rest) :
    (w >>= next).Keeps passes (script ++ rest) := by
  cases hw : w.result with
  | error f =>
      have hcalls : (w >>= next).calls = w.calls := calls_bind_of_error hw
      refine ⟨?_, ?_, ?_⟩
      · rw [hcalls]
        exact h.calls.trans (List.prefix_append _ _)
      · rw [hcalls]
        exact h.earlier
      · intro b hb
        rw [result_bind, hw] at hb
        cases hb
  | ok a =>
      obtain ⟨hscript, hpasses⟩ := h.whole a hw
      have hmore := hnext a hw
      have hcalls : (w >>= next).calls = script ++ (next a).calls := by
        rw [calls_bind_of_ok hw, hscript]
      refine ⟨?_, ?_, ?_⟩
      · rw [hcalls]
        exact (List.prefix_append_right_inj _).2 hmore.calls
      · rw [hcalls, List.pairwise_append]
        exact ⟨hscript ▸ h.earlier, hmore.earlier, fun c hc _ _ => hpasses c hc⟩
      · intro b hb
        rw [result_bind, hw] at hb
        obtain ⟨hrest, hlater⟩ := hmore.whole b hb
        refine ⟨by rw [hcalls, hrest], fun c hc => ?_⟩
        rcases List.mem_append.1 hc with hc | hc
        · exact hpasses c hc
        · exact hlater c hc

end Work

/-! ### Single calls -/

namespace Installed

variable {i : Installed} {c : Subcommand}

theorem calls_prefix : (i.call c).calls <+: [⟨i.bin, c⟩] := by
  rw [call]
  split
  · exact List.nil_prefix
  · exact List.prefix_rfl

/-- A call with a result was made, and its planner ended with status zero. -/
theorem of_call_eq_ok {output : List UInt8} (h : (i.call c).result = .ok output) :
    (i.call c).calls = [⟨i.bin, c⟩] ∧
      ∃ planner, i.planner = some planner ∧ (planner c).status = some 0 ∧
        (planner c).stdout = output := by
  rw [call] at h ⊢
  split at h
  case h_1 => cases h
  case h_2 planner hplanner =>
      rw [hplanner]
      dsimp only at h
      split at h
      case isTrue hstatus => exact ⟨rfl, planner, rfl, hstatus, Except.ok.inj h⟩
      case isFalse => cases h

theorem calls_version : i.version.calls = (i.call .version).calls := by
  rw [version, Work.calls_bind_of_silent fun _ => rfl]

end Installed

namespace Run

variable {host : Host} {o : Options} {s : Settings} {f : Fault}

/-- A call goes well: the planner is there and ends with status zero, and asked for its version it
tells one that is 1.1 or higher. -/
def GoesWell (host : Host) (c : Call) : Prop :=
  ∃ planner, host.planner? c.bin = some planner ∧ (planner c.subcommand).status = some 0 ∧
    (c.subcommand = .version →
      ∃ v, Installed.readVersion host.readers.json (planner .version).stdout = .ok v ∧
        (1 < v.major ∨ v.major = 1 ∧ 1 ≤ v.minor))

/-- The subcommands that open a run: blocks call for a version that has them. -/
def opening (s : Settings) : List Subcommand := if s.output = .blocks then [.version] else []

/-- The subcommands that make a plan, unless there is one. -/
def planning (host : Host) (o : Options) : List Subcommand :=
  match o.planFile with
  | some _ => []
  | none   => [.init, .plan host.planPath, .show host.planPath]

/-- The calls that a run with the given settings makes if all goes well. -/
def script (host : Host) (o : Options) (s : Settings) : List Call :=
  (opening s ++ planning host o).map (Call.mk s.planner)

/-! ### Each part of the work keeps to its part of the script -/

theorem keeps_call {bin : String} {c : Subcommand} (h : c ≠ .version) :
    ((host.installed bin).call c).Keeps (GoesWell host) [⟨bin, c⟩] := by
  refine Work.keeps_singleton Installed.calls_prefix fun output houtput => ?_
  obtain ⟨hcalls, planner, hplanner, hstatus, -⟩ := Installed.of_call_eq_ok houtput
  exact ⟨hcalls, planner, hplanner, hstatus, fun hc => absurd hc h⟩

/-- What the gate is for blocks. -/
theorem versionGate_of_blocks (h : s.output = .blocks) :
    versionGate host s = (host.installed s.planner).version >>= fun v =>
      Work.ofExcept v.requireMovedBlocks := by
  rw [versionGate, Settings.requiresVersionCheck, h]
  rfl

/-- The version gate is a single call, and is passed when it goes well. -/
theorem keeps_versionGate :
    (versionGate host s).Keeps (GoesWell host) ((opening s).map (Call.mk s.planner)) := by
  cases houtput : s.output with
  | commands =>
      have hopening : opening s = [] := by simp [opening, houtput]
      rw [hopening, versionGate, Settings.requiresVersionCheck, houtput]
      exact Work.keeps_nil rfl
  | blocks =>
      have hopening : opening s = [.version] := by simp [opening, houtput]
      have hcalls : (versionGate host s).calls =
          ((host.installed s.planner).call .version).calls := by
        rw [versionGate_of_blocks houtput, Work.calls_bind_of_silent fun _ => rfl,
          Installed.calls_version]
      rw [hopening]
      refine Work.keeps_singleton (hcalls ▸ Installed.calls_prefix) fun _ hresult => ?_
      rw [versionGate_of_blocks houtput] at hresult
      obtain ⟨v, hv, hrequire⟩ := Work.bind_eq_ok_iff.1 hresult
      obtain ⟨output, houtput, hread⟩ := Work.bind_eq_ok_iff.1 hv
      obtain ⟨hcall, planner, hplanner, hstatus, rfl⟩ := Installed.of_call_eq_ok houtput
      refine ⟨hcalls.trans hcall, planner, hplanner, hstatus, fun _ => ⟨v, hread, ?_⟩⟩
      exact Version.supportsMovedBlocks_iff.1 (Version.requireMovedBlocks_eq_ok_iff.1 hrequire)

theorem keeps_plan (bin file : String) : ((host.installed bin).plan file).Keeps (GoesWell host)
    ([.init, .plan file, .show file].map (Call.mk bin)) := by
  have hsilent {α : Type} {w : Work α} (h : w.calls = []) : w.Keeps (GoesWell host) [] :=
    Work.keeps_nil h
  exact (hsilent rfl).bind fun _ _ => (keeps_call (by simp)).bind fun _ _ =>
    (hsilent rfl).bind fun _ _ => (keeps_call (by simp)).bind fun _ _ =>
      (keeps_call (by simp)).bind fun _ _ => hsilent rfl

theorem keeps_loadPlan (host : Host) (o : Options) (s : Settings) :
    (loadPlan host o s).Keeps (GoesWell host) ((planning host o).map (Call.mk s.planner)) := by
  unfold loadPlan sourceOf planning
  cases o.planFile with
  | some path => exact Work.keeps_nil rfl
  | none => exact keeps_plan s.planner host.planPath

/-- **The work of a run keeps to its script.** -/
theorem keeps_matching (host : Host) (o : Options) (s : Settings) :
    (matching host o s).Keeps (GoesWell host) (script host o s) := by
  have hrules : (Work.ofExcept (Ignore.rules? s.ignore)).Keeps (GoesWell host) [] :=
    Work.keeps_nil rfl
  have hsource : (source host o s).Keeps (GoesWell host) [] :=
    Work.keeps_nil (source_calls host o s)
  have hanalyse (rules : List Ignore.Rule) : ((sourceOf host o s).analyse host .never rules).Keeps
      (GoesWell host) ((planning host o).map (Call.mk s.planner)) := by
    have hrest (p : Plan) : (Work.inform "Analysing plan..." >>= fun _ =>
        Work.ofExcept (p.analyse .never rules)).Keeps (GoesWell host) [] := Work.keeps_nil rfl
    have hkeeps := (keeps_loadPlan host o s).bind fun p _ => hrest p
    rwa [List.append_nil] at hkeeps
  rw [script, List.map_append]
  refine hrules.bind fun rules _ => keeps_versionGate.bind fun _ _ => hsource.bind fun src hsrc => ?_
  rw [source_result] at hsrc
  cases hsrc
  exact hanalyse rules

/-! ### A run -/

/-- How the calls of a run go. -/
structure Orderly (host : Host) (o : Options) (calls : List Call) : Prop where
  /-- Settings that cannot be loaded, or have a problem, are followed by no call. -/
  unsettled : ∀ f, (Settings.load host o).2 = .error f → calls = []
  invalid : ∀ s, (Settings.gather host o).2 = .ok s →
    (s.problems fun p => (host.look p).isDirectory) ≠ [] → calls = []
  /-- The calls are a first part of the script. -/
  scripted : ∀ s, (Settings.load host o).2 = .ok s → calls <+: script host o s
  /-- Before a call, all others have gone well. -/
  earlier : calls.Pairwise fun c _ => GoesWell host c
  /-- A run with a matching has made all calls of the script. -/
  complete : ∀ s m, Reaches host o s m → calls = script host o s

/-- What becomes of texts that are no rules. -/
structure RulesFirst (host : Host) (o : Options) : Prop where
  /-- All settings that pass the check have rules. -/
  accepted : ∀ s t, Settings.checked host.look s = .ok t →
    ∃ rules, Ignore.rules? t.ignore = .ok rules
  /-- No run is stopped by the fault of a rule. -/
  never : ∀ text defect, ¬ Stops host o (.rule text defect)
  /-- A text that is no rule, in the configuration file or among the options, is a fault of the
  settings. -/
  stopped : ∀ text, ¬ Ignore.IsRule text →
    (text ∈ o.ignore ∨ ∃ path t, Settings.configPath? host o = some path ∧
      Settings.ofFile host.readers.yaml host.look path = .ok t ∧ text ∈ t.ignore) →
    ∃ f, f.ConcernsSettings ∧ run host o = failed (reportOf host o) "" [] f
  /-- When what is checked before the rules is sound, the fault is the first text that is no rule
  and names its index. -/
  first : ∀ s i text defect, (Settings.gather host o).2 = .ok s →
    s.Sound (fun p => (host.look p).isDirectory) → s.ignore[i]? = some text →
    Ignore.Rule.ofText? text = .error defect →
    (∀ j t, j < i → s.ignore[j]? = some t → Ignore.IsRule t) →
      run host o = failed (reportOf host o) "" [] (.settingsProblem (.rule i text defect)) ∧
      (Settings.Problem.rule i text defect).field = "ignore[" ++ Number.text i ++ "]"

theorem orderly_run (host : Host) (o : Options) : Orderly host o (run host o).calls := by
  rw [run_calls, callsOf]
  cases hload : (Settings.load host o).2 with
  | error f =>
      refine ⟨fun _ _ => rfl, fun _ _ _ => rfl, fun s hs => ?_, .nil, fun s m h => ?_⟩
      · cases hload.symm.trans hs
      · cases hload.symm.trans h.settings
  | ok s =>
      obtain ⟨hcalls, hearlier, hwhole⟩ := keeps_matching host o s
      refine ⟨fun f hf => ?_, fun t ht hproblems => ?_, fun t ht => ?_, hearlier, fun t m h => ?_⟩
      · cases hload.symm.trans hf
      · rw [Settings.load_of_gather ht] at hload
        obtain ⟨rfl, hnone⟩ := Settings.checked_eq_ok_iff.1 hload
        exact absurd hnone hproblems
      · cases hload.symm.trans ht
        exact hcalls
      · cases hload.symm.trans h.settings
        exact (hwhole m (reaches_iff.1 h).2).1

theorem rulesFirst (host : Host) (o : Options) : RulesFirst host o where
  accepted _ _ h := Settings.rules?_of_checked h
  never text defect := not_stops_rule text defect
  stopped text hrule hmem := by
    obtain ⟨f, hf⟩ := Settings.load_of_not_isRule hrule hmem
    exact ⟨f, Settings.concernsSettings_of_load hf, run_of_load hf⟩
  first s i text defect hgather hsound htext hdefect hbefore := by
    refine ⟨run_of_load ?_, rfl⟩
    rw [Settings.load_of_gather hgather]
    exact Settings.checked_of_sound hsound htext hdefect hbefore

/-- **A run fails before it does anything in vain.**  Its calls keep to the script, and none is made
before the settings are in order or after one that goes wrong.  A text that is no rule is a fault of
the settings. -/
theorem run_fails_fast (host : Host) (o : Options) :
    Orderly host o (run host o).calls ∧ RulesFirst host o :=
  ⟨orderly_run host o, rulesFirst host o⟩

/-- An old planner is asked for its version and nothing more; and a text that is no rule keeps it
from being asked even that. -/
theorem run_fails_fast_bare :
    (run (Host.bare "1.0.9") {}).calls = [⟨"terraform", .version⟩] ∧
    run (Host.bare "1.0.9") { ignore := ["t.*", "t.**.x"] } =
      failed ⟨.text, false⟩ "" [] (.settingsProblem (.rule 1 "t.**.x" .earlyRest)) := by
  refine ⟨by decide +kernel, ?_⟩
  have hbefore (j : Nat) (t : String) (hj : j < 1) (ht : ["t.*", "t.**.x"][j]? = some t) :
      Ignore.IsRule t := by
    obtain rfl := Nat.lt_one_iff.1 hj
    obtain rfl := Option.some.inj ht
    exact ⟨_, rfl⟩
  exact ((run_fails_fast (Host.bare "1.0.9") { ignore := ["t.*", "t.**.x"] }).2.first
    { ignore := ["t.*", "t.**.x"] } 1 "t.**.x" _ rfl ⟨rfl, rfl, rfl, rfl⟩ rfl rfl hbefore).1

end Run

end ResourceMoves
