import ResourceMoves.Proofs.Run.Stages

/-!
# Runs — the faults of each stage

A run is stopped by a fault of its settings, of the planner or of its plan (`concerns_of_stops`).
A text that is no rule is a problem of the settings, and these are loaded first; so the fault with
which rules are read is none of them (`not_stops_rule`).
-/

namespace ResourceMoves

variable {host : Host} {o : Options} {s : Settings} {f : Fault}

namespace Fault

/-- A fault of the planner: it cannot be called, fails, or is not recent enough. -/
inductive ConcernsPlanner : Fault → Prop
  | missing (bin detail : String) : ConcernsPlanner (.plannerMissing bin detail)
  | failed (command : String) (status : Int) (output : String) :
      ConcernsPlanner (.plannerFailed command status output)
  | unknown (text : String) : ConcernsPlanner (.versionUnknown text)
  | old (found : Version) : ConcernsPlanner (.versionTooOld found)

/-- A fault of the plan: its file or its text cannot be read, an entry has a defect, or it cannot be
matched. -/
inductive ConcernsPlan : Fault → Prop
  | file (detail : String) : ConcernsPlan (.system detail)
  | unreadable (detail : String) : ConcernsPlan (.planUnreadable detail)
  | entry (address : String) (defect : Plan.Defect) : ConcernsPlan (.planEntry address defect)
  | duplicate (side : Plan.Side) (address : String) : ConcernsPlan (.duplicate side address)
  | cancelled : ConcernsPlan .cancelled

end Fault

/-! ### The planner -/

theorem Version.concernsPlanner_of_read {text : String} (h : Version.read text = .error f) :
    f.ConcernsPlanner := by
  rw [Version.read] at h
  split at h
  case h_1 => cases h
  case h_2 => cases h; exact .unknown _

theorem Version.concernsPlanner_of_requireMovedBlocks {v : Version}
    (h : v.requireMovedBlocks = .error f) : f.ConcernsPlanner := by
  rw [Version.requireMovedBlocks] at h
  split at h
  case isTrue => cases h
  case isFalse => cases h; exact .old _

namespace Installed

variable {i : Installed}

theorem concernsPlanner_of_call {c : Subcommand} (h : (i.call c).result = .error f) :
    f.ConcernsPlanner := by
  rw [call] at h
  split at h
  case h_1 => cases h; exact .missing _ _
  case h_2 planner _ =>
      dsimp only at h
      split at h
      case isTrue => cases h
      case isFalse => cases h; exact .failed _ _ _

theorem concernsPlanner_of_readVersion {json : Json.Reader} {output : List UInt8}
    (h : readVersion json output = .error f) : f.ConcernsPlanner := by
  rw [readVersion] at h
  split at h
  case h_1 => exact Version.concernsPlanner_of_read h
  case h_2 => cases h; exact .unknown _

theorem concernsPlanner_of_version (h : i.version.result = .error f) : f.ConcernsPlanner := by
  rw [version] at h
  rcases Work.bind_eq_error_iff.1 h with h | ⟨output, -, h⟩
  · exact concernsPlanner_of_call h
  · exact concernsPlanner_of_readVersion h

end Installed

/-! ### The plan -/

theorem Plan.concernsPlan_of_read {json : Json.Reader} {text : String}
    (h : Plan.read json text = .error f) : f.ConcernsPlan := by
  rw [Plan.read] at h
  split at h
  case h_1 => cases h
  case h_2 => cases h; exact .unreadable _

theorem Installed.concernsPlan_of_readPlan {json : Json.Reader} {output : List UInt8}
    (h : readPlan json output = .error f) : f.ConcernsPlan := by
  rw [readPlan] at h
  split at h
  case h_1 => exact Plan.concernsPlan_of_read h
  case h_2 => cases h; exact .unreadable _

theorem Fault.concernsPlan_ofRefusal (r : Matching.Refusal) : (ofRefusal r).ConcernsPlan := by
  cases r with
  | duplicate side address => exact .duplicate _ _
  | cancelled => exact .cancelled

theorem Plan.concernsPlan_of_extract {p : Plan} (h : p.extract = .error f) : f.ConcernsPlan := by
  rw [extract] at h
  split at h
  case h_1 => cases h; exact .entry _ _
  case h_2 => cases h

theorem Plan.concernsPlan_of_analyse {p : Plan} {watch : Matching.Watch}
    {rules : List Ignore.Rule} (h : p.analyse watch rules = .error f) : f.ConcernsPlan := by
  rw [analyse] at h
  rcases bind_eq_error_iff.1 h with h | ⟨⟨⟩, -, h⟩
  · obtain ⟨r, -, rfl⟩ := mapError_eq_error_iff.1 h
    exact Fault.concernsPlan_ofRefusal r
  · rcases bind_eq_error_iff.1 h with h | ⟨candidates, -, h⟩
    · exact concernsPlan_of_extract h
    · obtain ⟨r, -, rfl⟩ := mapError_eq_error_iff.1 h
      exact Fault.concernsPlan_ofRefusal r

theorem Installed.concerns_of_plan {i : Installed} {file : String}
    (h : (i.plan file).result = .error f) : f.ConcernsPlanner ∨ f.ConcernsPlan := by
  rw [plan] at h
  rcases Work.bind_eq_error_iff.1 h with h | ⟨⟨⟩, -, h⟩
  · cases h
  rcases Work.bind_eq_error_iff.1 h with h | ⟨_, -, h⟩
  · exact .inl (concernsPlanner_of_call h)
  rcases Work.bind_eq_error_iff.1 h with h | ⟨⟨⟩, -, h⟩
  · cases h
  rcases Work.bind_eq_error_iff.1 h with h | ⟨_, -, h⟩
  · exact .inl (concernsPlanner_of_call h)
  rcases Work.bind_eq_error_iff.1 h with h | ⟨_, -, h⟩
  · exact .inl (concernsPlanner_of_call h)
  · exact .inr (concernsPlan_of_readPlan h)

theorem PlanSource.concerns_of_load {source : PlanSource}
    (h : (source.load host).result = .error f) : f.ConcernsPlanner ∨ f.ConcernsPlan := by
  cases source with
  | planner i => exact Installed.concerns_of_plan h
  | file path =>
      rw [load, Work.ofExcept] at h
      split at h
      case h_1 => exact .inr (Plan.concernsPlan_of_read h)
      all_goals
        cases h
        exact .inr (.file _)

namespace Run

theorem concernsPlanner_of_versionGate (h : (versionGate host s).result = .error f) :
    f.ConcernsPlanner := by
  rw [versionGate] at h
  split at h
  case isFalse => cases h
  case isTrue =>
      rcases Work.bind_eq_error_iff.1 h with h | ⟨v, -, h⟩
      · exact Installed.concernsPlanner_of_version h
      · exact Version.concernsPlanner_of_requireMovedBlocks h

/-- **What stops a run is a fault of its settings, of the planner or of its plan.** -/
theorem concerns_of_stops (h : Stops host o f) :
    f.ConcernsSettings ∨ f.ConcernsPlanner ∨ f.ConcernsPlan := by
  cases h with
  | settings h => exact .inl (Settings.concernsSettings_of_load h)
  | gate _ h => exact .inr (.inl (concernsPlanner_of_versionGate h))
  | plan _ _ h => exact .inr (PlanSource.concerns_of_load h)
  | analysis _ _ _ _ h => exact .inr (.inr (Plan.concernsPlan_of_analyse h))

/-- No run is stopped while its rules are read. -/
theorem not_stops_rule (text : String) (defect : Ignore.Defect) :
    ¬ Stops host o (.rule text defect) := by
  intro h
  rcases concerns_of_stops h with h | h | h
  · cases h
  · cases h
  · cases h

end Run

end ResourceMoves
