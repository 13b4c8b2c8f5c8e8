import ResourceMoves.Proofs.Result
import ResourceMoves.Settings.Load

/-!
# Settings — rules are checked before anything is done

The check of settings reads every rule, so the rules of settings that pass it are read again without
a fault (`rules?_of_checked`).  A text that is no rule is a problem of the settings, wherever it
comes from: the rules of the configuration file and those of the options are checked together
(`gather_eq_ok_iff`), and the problem has the index of the first text that is no rule
(`checked_of_sound`).  Whatever stops the loading of settings is a fault of theirs
(`concernsSettings_of_load`).
-/

namespace ResourceMoves

variable {host : Host} {o : Options} {s t : Settings} {f : Fault} {texts : List String}
  {text : String} {defect : Ignore.Defect} {isDirectory : String → Bool} {yaml : Yaml.Reader}
  {look : String → Found}

/-- A fault of the configuration: it is missing, cannot be read, or has a problem. -/
inductive Fault.ConcernsSettings : Fault → Prop
  | missing (path : String) : ConcernsSettings (.settingsMissing path)
  | unreadable (location : Option String) (detail : String) :
      ConcernsSettings (.settingsUnreadable location detail)
  | problem (p : Settings.Problem) : ConcernsSettings (.settingsProblem p)

/-- The text spells a rule. -/
def Ignore.IsRule (text : String) : Prop := ∃ r, Ignore.Rule.ofText? text = .ok r

/-- Texts that are rules are read as such. -/
theorem Ignore.rules?_of_isRule (h : ∀ text ∈ texts, IsRule text) :
    ∃ rules, rules? texts = .ok rules := by
  induction texts with
  | nil => exact ⟨[], rfl⟩
  | cons text texts ih =>
      obtain ⟨rules, hrules⟩ := ih fun t ht => h t (List.mem_cons_of_mem _ ht)
      obtain ⟨r, hr⟩ := h text List.mem_cons_self
      refine ⟨r :: rules, ?_⟩
      rw [rules?, List.mapM_cons]
      exact bind_eq_ok_iff.2 ⟨r, mapError_eq_ok_iff.2 hr, bind_eq_ok_iff.2 ⟨rules, hrules, rfl⟩⟩

namespace Settings

/-! ### Problems with rules -/

theorem ruleProblems_eq_nil_iff {i : Nat} :
    ruleProblems i texts = [] ↔ ∀ text ∈ texts, Ignore.IsRule text := by
  induction texts generalizing i with
  | nil => simp [ruleProblems]
  | cons text texts ih =>
      cases h : Ignore.Rule.ofText? text with
      | ok r => simp [ruleProblems, h, ih, Ignore.IsRule]
      | error d => simp [ruleProblems, h, Ignore.IsRule]

/-- The first problem with rules is the first text that is none. -/
theorem ruleProblems_head {i k : Nat} (htext : texts[i]? = some text)
    (hdefect : Ignore.Rule.ofText? text = .error defect)
    (hbefore : ∀ j t, j < i → texts[j]? = some t → Ignore.IsRule t) :
    (ruleProblems k texts).head? = some (.rule (k + i) text defect) := by
  induction texts generalizing i k with
  | nil => simp at htext
  | cons u texts ih =>
      cases i with
      | zero =>
          cases Option.some.inj htext
          simp [ruleProblems, hdefect]
      | succ i =>
          obtain ⟨r, hr⟩ := hbefore 0 u (Nat.succ_pos i) rfl
          rw [ruleProblems, hr, Nat.add_comm i, ← Nat.add_assoc]
          exact ih htext fun j t hj ht => hbefore (j + 1) t (Nat.succ_lt_succ hj) ht

/-- The settings that are checked before the rules are in order. -/
structure Sound (isDirectory : String → Bool) (s : Settings) : Prop where
  planner   : isVoid s.planner = false
  directory : isDirectory s.workingDir
  movesFile : isVoid s.movesFile = false
  extension : ".tf".toList.isSuffixOf s.movesFile.toList

theorem problems_of_sound (h : s.Sound isDirectory) :
    s.problems isDirectory = ruleProblems 0 s.ignore := by
  simp only [problems, h.planner, h.directory, h.movesFile, h.extension, Bool.false_eq_true,
    if_true, if_false, List.nil_append]

theorem isRule_of_problems_eq_nil (h : s.problems isDirectory = []) :
    ∀ text ∈ s.ignore, Ignore.IsRule text :=
  ruleProblems_eq_nil_iff.1 (List.append_eq_nil_iff.1 h).2

/-! ### The check -/

theorem checked_eq_ok_iff :
    s.checked look = .ok t ↔ t = s ∧ (s.problems fun p => (look p).isDirectory) = [] := by
  rw [checked]
  split
  case h_1 h => simp [h, eq_comm]
  case h_2 p ps h => simp [h]

/-- **Settings that pass the check have rules.** -/
theorem rules?_of_checked (h : s.checked look = .ok t) :
    ∃ rules, Ignore.rules? t.ignore = .ok rules := by
  obtain ⟨rfl, hproblems⟩ := checked_eq_ok_iff.1 h
  exact Ignore.rules?_of_isRule (isRule_of_problems_eq_nil hproblems)

/-- Settings with a text that is no rule do not pass the check. -/
theorem checked_of_not_isRule (hmem : text ∈ s.ignore) (hrule : ¬ Ignore.IsRule text) :
    ∃ p, s.checked look = .error (.settingsProblem p) := by
  rw [checked]
  split
  case h_1 h => exact absurd (isRule_of_problems_eq_nil h text hmem) hrule
  case h_2 p ps h => exact ⟨p, rfl⟩

/-- The problem of settings that are in order but for their rules is the first of these. -/
theorem checked_of_sound (hsound : s.Sound fun p => (look p).isDirectory) {i : Nat}
    (htext : s.ignore[i]? = some text) (hdefect : Ignore.Rule.ofText? text = .error defect)
    (hbefore : ∀ j t, j < i → s.ignore[j]? = some t → Ignore.IsRule t) :
    s.checked look = .error (.settingsProblem (.rule i text defect)) := by
  have hhead := ruleProblems_head (k := 0) htext hdefect hbefore
  rw [Nat.zero_add] at hhead
  obtain ⟨ps, hps⟩ := List.head?_eq_some_iff.1 hhead
  rw [checked, problems_of_sound hsound, hps]

/-! ### Where rules come from -/

/-- The environment overrides no rules. -/
theorem ignore_of_override {env : Environment} (h : s.override env = .ok t) :
    t.ignore = s.ignore := by
  unfold override at h
  -- three variables override three settings, and rules are none of these
  generalize env.get? "AUTOMV_TERRAFORM_BIN" = planner at h
  generalize env.get? "AUTOMV_OUTPUT" = output at h
  generalize env.get? "AUTOMV_MOVES_FILE" = movesFile at h
  cases output with
  | none =>
      cases h
      cases planner <;> cases movesFile <;> rfl
  | some name =>
      obtain ⟨form, -, h⟩ := bind_eq_ok_iff.1 h
      cases h
      cases planner <;> cases movesFile <;> rfl

/-- The rules before those of the options are the ones of the configuration file. -/
theorem ignore_of_ofFileAndEnvironment {env : Environment} {path : String}
    (hfile : ofFile yaml look path = .ok s)
    (h : ofFileAndEnvironment yaml look env (some path) = .ok t) : t.ignore = s.ignore := by
  obtain ⟨u, hu, ht⟩ := bind_eq_ok_iff.1 h
  cases hu.symm.trans hfile
  exact ignore_of_override (mapError_eq_ok_iff.1 ht)

/-- What settings are gathered from: the file of variables has been read, and the options stand
over the configuration file and the environment. -/
theorem gather_eq_ok_iff : (gather host o).2 = .ok s ↔
    ∃ env, loadVariables host.readers.variableFile host.look host.environment
        (variablesDirectory (configPath? host o)) = (env, .ok ()) ∧
      ∃ t, ofFileAndEnvironment host.readers.yaml host.look env (configPath? host o) = .ok t ∧
        o.apply t = s := by
  rw [gather]
  obtain ⟨env, loaded⟩ := loadVariables host.readers.variableFile host.look host.environment
    (variablesDirectory (configPath? host o))
  simp only [bind_eq_ok_iff]
  constructor
  · rintro ⟨⟨⟩, rfl, t, ht, h⟩
    exact ⟨env, rfl, t, ht, Except.ok.inj h⟩
  · rintro ⟨_, ⟨⟩, t, ht, rfl⟩
    exact ⟨(), rfl, t, ht, rfl⟩

theorem load_eq_bind : (load host o).2 = (gather host o).2 >>= checked host.look := rfl

/-- Settings that are gathered are loaded if they pass the check. -/
theorem load_of_gather (h : (gather host o).2 = .ok s) :
    (load host o).2 = s.checked host.look := by
  rw [load_eq_bind, h]
  rfl

/-- **A text that is no rule stops the loading of settings**, whether it is in the configuration
file or among the options. -/
theorem load_of_not_isRule (hrule : ¬ Ignore.IsRule text)
    (hmem : text ∈ o.ignore ∨ ∃ path t, configPath? host o = some path ∧
      ofFile host.readers.yaml host.look path = .ok t ∧ text ∈ t.ignore) :
    ∃ f, (load host o).2 = .error f := by
  cases hgather : (gather host o).2 with
  | error f => exact ⟨f, bind_eq_error_iff.2 (.inl hgather)⟩
  | ok s =>
      rw [load_of_gather hgather]
      obtain ⟨env, -, t, ht, rfl⟩ := gather_eq_ok_iff.1 hgather
      have htext : text ∈ (o.apply t).ignore := by
        rcases hmem with hmem | ⟨path, u, hpath, hu, hmem⟩
        · exact List.mem_append_right _ hmem
        · rw [hpath] at ht
          exact List.mem_append_left _ (ignore_of_ofFileAndEnvironment hu ht ▸ hmem)
      obtain ⟨p, hp⟩ := checked_of_not_isRule htext hrule
      exact ⟨_, hp⟩

/-! ### Faults of loading -/

theorem concernsSettings_of_ofFile {path : String} (h : ofFile yaml look path = .error f) :
    f.ConcernsSettings := by
  rw [ofFile] at h
  split at h
  case h_1 => cases h; exact .missing _
  case h_2 => cases h; exact .missing _
  case h_3 content _ =>
    rw [parse] at h
    split at h
    case h_1 => cases h
    case h_2 => cases h; exact .unreadable _ _
  case h_4 => cases h; exact .unreadable _ _
  case h_5 => cases h; exact .unreadable _ _

theorem concernsSettings_of_ofFileAndEnvironment {env : Environment} {path : Option String}
    (h : ofFileAndEnvironment yaml look env path = .error f) : f.ConcernsSettings := by
  have hoverridden {u : Settings} (h : u.overridden env = .error f) : f.ConcernsSettings := by
    obtain ⟨name, -, rfl⟩ := mapError_eq_error_iff.1 h
    exact .problem _
  cases path with
  | none => exact hoverridden h
  | some p =>
      rcases bind_eq_error_iff.1 h with h | ⟨u, -, h⟩
      · exact concernsSettings_of_ofFile h
      · exact hoverridden h

theorem concernsSettings_of_loadVariables {variableFile : Environment.Reader} {env : Environment}
    {directory : String} (h : (loadVariables variableFile look env directory).2 = .error f) :
    f.ConcernsSettings := by
  rw [loadVariables] at h
  split at h
  case h_1 => cases h
  case h_2 => cases h
  case h_3 content _ =>
    dsimp only at h
    split at h
    case isTrue => cases h
    case isFalse => cases h; exact .unreadable _ _
  case h_4 => cases h; exact .unreadable _ _

/-- **What stops the loading of settings is a fault of theirs.** -/
theorem concernsSettings_of_load (h : (load host o).2 = .error f) : f.ConcernsSettings := by
  rw [load_eq_bind] at h
  rcases bind_eq_error_iff.1 h with h | ⟨s, -, h⟩
  · rcases bind_eq_error_iff.1 h with h | ⟨⟨⟩, -, h⟩
    · exact concernsSettings_of_loadVariables h
    · rcases bind_eq_error_iff.1 h with h | ⟨t, -, h⟩
      · exact concernsSettings_of_ofFileAndEnvironment h
      · cases h
  · rw [checked] at h
    split at h
    case h_1 => cases h
    case h_2 => cases h; exact .problem _

end Settings

end ResourceMoves
