import ResourceMoves.Proofs.Settings.Rules
import ResourceMoves.Run

/-!
# Runs — their stages

A run loads its settings, lets the planner pass the version gate, loads a plan and analyses it.  A
fault of any of these stages stops it (`Stops`); otherwise it has settings and a matching
(`Reaches`).  One of the two is the case (`stops_or_reaches`): the rules are read after the settings,
but these were checked with them, so that this is no stage of its own.

What is left of a run once it is known how its stages end is in `run_of_stops` and `run_of_reaches`.
-/

namespace ResourceMoves

namespace Work

variable {α β : Type} {w : Work α} {next : α → Work β} {f : Fault}

theorem result_bind (w : Work α) (next : α → Work β) :
    (w >>= next).result = w.result >>= fun a => (next a).result := by
  change (andThen w next).result = _
  rw [andThen]
  cases w.result <;> rfl

theorem bind_eq_ok_iff {b : β} : (w >>= next).result = .ok b ↔
    ∃ a, w.result = .ok a ∧ (next a).result = .ok b := by
  rw [result_bind]
  exact ResourceMoves.bind_eq_ok_iff

theorem bind_eq_error_iff : (w >>= next).result = .error f ↔
    w.result = .error f ∨ ∃ a, w.result = .ok a ∧ (next a).result = .error f := by
  rw [result_bind]
  exact ResourceMoves.bind_eq_error_iff

theorem calls_bind_of_error (h : w.result = .error f) : (w >>= next).calls = w.calls := by
  change (andThen w next).calls = _
  rw [andThen, h]

theorem calls_bind_of_ok {a : α} (h : w.result = .ok a) :
    (w >>= next).calls = w.calls ++ (next a).calls := by
  change (andThen w next).calls = _
  rw [andThen, h]

/-- Work that makes no call does not add one. -/
theorem calls_bind_of_silent (h : ∀ a, (next a).calls = []) : (w >>= next).calls = w.calls := by
  cases hw : w.result with
  | error f => exact calls_bind_of_error hw
  | ok a => rw [calls_bind_of_ok hw, h, List.append_nil]

end Work

namespace Run

variable {host : Host} {o : Options} {s : Settings} {m : Matching} {f : Fault}

/-- Where the plan of a run is from: the file that the options name, or the planner. -/
def sourceOf (host : Host) (o : Options) (s : Settings) : PlanSource :=
  match o.planFile with
  | some path => .file path
  | none      => .planner (host.installed s.planner)

/-- The plan of a run. -/
def loadPlan (host : Host) (o : Options) (s : Settings) : Work Plan := (sourceOf host o s).load host

/-- A run is stopped by a fault of a stage, all stages before having gone well. -/
inductive Stops (host : Host) (o : Options) : Fault → Prop
  | settings {f : Fault} (h : (Settings.load host o).2 = .error f) : Stops host o f
  | gate {s : Settings} {f : Fault} (hs : (Settings.load host o).2 = .ok s)
      (h : (versionGate host s).result = .error f) : Stops host o f
  | plan {s : Settings} {f : Fault} (hs : (Settings.load host o).2 = .ok s)
      (hgate : (versionGate host s).result = .ok ())
      (h : (loadPlan host o s).result = .error f) : Stops host o f
  | analysis {s : Settings} {p : Plan} {rules : List Ignore.Rule} {f : Fault}
      (hs : (Settings.load host o).2 = .ok s) (hgate : (versionGate host s).result = .ok ())
      (hplan : (loadPlan host o s).result = .ok p) (hrules : Ignore.rules? s.ignore = .ok rules)
      (h : p.analyse .never rules = .error f) : Stops host o f

/-- All stages of a run go well: it has the settings `s`, and `m` is the matching of its plan. -/
structure Reaches (host : Host) (o : Options) (s : Settings) (m : Matching) : Prop where
  settings : (Settings.load host o).2 = .ok s
  gate     : (versionGate host s).result = .ok ()
  analysis : ∃ p rules, (loadPlan host o s).result = .ok p ∧
    Ignore.rules? s.ignore = .ok rules ∧ p.analyse .never rules = .ok m

theorem source_result (host : Host) (o : Options) (s : Settings) :
    (source host o s).result = .ok (sourceOf host o s) := by
  unfold source sourceOf
  cases o.planFile <;> rfl

theorem source_calls (host : Host) (o : Options) (s : Settings) : (source host o s).calls = [] := by
  unfold source
  cases o.planFile <;> rfl

theorem source_analyse_result (rules : List Ignore.Rule) :
    (source host o s >>= fun src => src.analyse host .never rules).result = (do
      let p ← (loadPlan host o s).result
      p.analyse .never rules) := by
  rw [Work.result_bind, source_result]
  change ((sourceOf host o s).load host >>= fun _ => _).result = _
  rw [Work.result_bind]
  rfl

/-- The work of a run up to the matching, stage by stage. -/
theorem matching_result {rules : List Ignore.Rule} (h : Ignore.rules? s.ignore = .ok rules) :
    (matching host o s).result = (do
      (versionGate host s).result
      let p ← (loadPlan host o s).result
      p.analyse .never rules) := by
  have hrules : (Work.ofExcept (Ignore.rules? s.ignore)).result = .ok rules := h
  rw [matching, Work.result_bind, hrules]
  change (versionGate host s >>= fun _ => _).result = _
  rw [Work.result_bind]
  simp only [source_analyse_result]

theorem load_checked (h : (Settings.load host o).2 = .ok s) :
    ∃ rules, Ignore.rules? s.ignore = .ok rules := by
  rw [Settings.load_eq_bind] at h
  obtain ⟨t, -, ht⟩ := bind_eq_ok_iff.1 h
  exact Settings.rules?_of_checked ht

/-- The matching of a run is that of its plan. -/
theorem reaches_iff : Reaches host o s m ↔
    (Settings.load host o).2 = .ok s ∧ (matching host o s).result = .ok m := by
  constructor
  · rintro ⟨hs, hgate, p, rules, hplan, hrules, hm⟩
    refine ⟨hs, (matching_result hrules).trans ?_⟩
    exact bind_eq_ok_iff.2 ⟨(), hgate, bind_eq_ok_iff.2 ⟨p, hplan, hm⟩⟩
  · rintro ⟨hs, hm⟩
    obtain ⟨rules, hrules⟩ := load_checked hs
    rw [matching_result hrules] at hm
    obtain ⟨⟨⟩, hgate, hm⟩ := bind_eq_ok_iff.1 hm
    obtain ⟨p, hplan, hm⟩ := bind_eq_ok_iff.1 hm
    exact ⟨hs, hgate, p, rules, hplan, hrules, hm⟩

/-- What stops a run is a fault of its settings, or of its work up to the matching. -/
theorem stops_iff : Stops host o f ↔ (Settings.load host o).2 = .error f ∨
    ∃ s, (Settings.load host o).2 = .ok s ∧ (matching host o s).result = .error f := by
  constructor
  · intro h
    cases h with
    | settings h => exact .inl h
    | gate hs h =>
        obtain ⟨rules, hrules⟩ := load_checked hs
        refine .inr ⟨_, hs, (matching_result hrules).trans ?_⟩
        exact bind_eq_error_iff.2 (.inl h)
    | plan hs hgate h =>
        obtain ⟨rules, hrules⟩ := load_checked hs
        refine .inr ⟨_, hs, (matching_result hrules).trans ?_⟩
        exact bind_eq_error_iff.2 (.inr ⟨(), hgate, bind_eq_error_iff.2 (.inl h)⟩)
    | analysis hs hgate hplan hrules h =>
        refine .inr ⟨_, hs, (matching_result hrules).trans ?_⟩
        exact bind_eq_error_iff.2 (.inr ⟨(), hgate, bind_eq_error_iff.2 (.inr ⟨_, hplan, h⟩)⟩)
  · rintro (h | ⟨s, hs, h⟩)
    · exact .settings h
    · obtain ⟨rules, hrules⟩ := load_checked hs
      rw [matching_result hrules] at h
      rcases bind_eq_error_iff.1 h with h | ⟨⟨⟩, hgate, h⟩
      · exact .gate hs h
      · rcases bind_eq_error_iff.1 h with h | ⟨p, hplan, h⟩
        · exact .plan hs hgate h
        · exact .analysis hs hgate hplan hrules h

/-- **A run is stopped or gets to its matching.** -/
theorem stops_or_reaches (host : Host) (o : Options) :
    (∃ f, Stops host o f) ∨ ∃ s m, Reaches host o s m := by
  cases hs : (Settings.load host o).2 with
  | error f => exact .inl ⟨f, .settings hs⟩
  | ok s =>
      cases hm : (matching host o s).result with
      | error f => exact .inl ⟨f, stops_iff.2 (.inr ⟨s, hs, hm⟩)⟩
      | ok m => exact .inr ⟨s, m, reaches_iff.2 ⟨hs, hm⟩⟩

/-! ### What a run comes to -/

/-- The calls of a run: none without settings, else those of its work. -/
def callsOf (host : Host) (o : Options) : List Call :=
  match (Settings.load host o).2 with
  | .error _ => []
  | .ok s    => (matching host o s).calls

/-- The report of a run. -/
def reportOf (host : Host) (o : Options) : Report :=
  ⟨o.reportForm, showsColour host.terminal (Settings.load host o).1 o⟩

/-- Without settings nothing is said but why. -/
theorem run_of_load (h : (Settings.load host o).2 = .error f) :
    run host o = failed (reportOf host o) "" [] f := by
  simp only [run, h]
  rfl

theorem run_of_stops (h : Stops host o f) :
    ∃ said, run host o = failed (reportOf host o) said (callsOf host o) f := by
  rcases stops_iff.1 h with h | ⟨s, hs, hm⟩
  · refine ⟨"", ?_⟩
    simp only [run_of_load h, callsOf, h]
  · refine ⟨noticeLines (reportOf host o) (s.warnings.map (⟨.warning, ·⟩)) ++
      noticeLines (reportOf host o) (matching host o s).notices, ?_⟩
    simp only [run, callsOf, hs, hm]
    rfl

theorem run_of_reaches (h : Reaches host o s m) :
    ∃ said, run host o = handOver host (reportOf host o) o s said (callsOf host o) m := by
  obtain ⟨hs, hm⟩ := reaches_iff.1 h
  refine ⟨noticeLines (reportOf host o) (s.warnings.map (⟨.warning, ·⟩)) ++
    noticeLines (reportOf host o) (matching host o s).notices, ?_⟩
  simp only [run, callsOf, hs, hm]
  rfl

theorem calls_failed (r : Report) (said : String) (calls : List Call) (f : Fault) :
    (failed r said calls f).calls = calls := rfl

theorem calls_handOver (r : Report) (said : String) (calls : List Call) (m : Matching) :
    (handOver host r o s said calls m).calls = calls := by
  rw [handOver]
  split
  · rfl
  · split
    · rw [appendBlocks]
      split
      · rfl
      · rfl
    · rfl

/-- Handing over calls no planner. -/
theorem run_calls (host : Host) (o : Options) : (run host o).calls = callsOf host o := by
  rcases stops_or_reaches host o with ⟨f, h⟩ | ⟨s, m, h⟩
  · obtain ⟨said, hrun⟩ := run_of_stops h
    rw [hrun, calls_failed]
  · obtain ⟨said, hrun⟩ := run_of_reaches h
    rw [hrun, calls_handOver]

end Run

/-! ### A small system -/

/-- A system with the standard readers and nothing but a working directory and a planner, which tells
its version whatever it is asked. -/
def Host.bare (version : String) : Host where
  readers          := .standard
  environment      := []
  look path        := if path = "." then .directory else .absent
  currentDirectory := "/"
  userConfig       := none
  planner? _       := some fun _ =>
    { stdout := Text.encode (Json.Value.object [("terraform_version", .string version)]).compact
      stderr := []
      status := some 0 }
  planPath         := "/plan"
  now              := ⟨0, 0⟩
  terminal         := false

end ResourceMoves
