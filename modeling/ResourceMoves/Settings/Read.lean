import ResourceMoves.Host.Readers
import ResourceMoves.Settings.Basic

/-!
# Reading settings

Settings from a YAML record, whose fields are all known and each given once, and from the
environment, which overrides some of them.
-/

namespace ResourceMoves.Settings

/-- The text of a scalar. -/
def text? : Yaml.Node → Option String
  | .scalar s   => some s.text
  | .sequence _ => none

/-- The truth value that a plain scalar names. -/
def flag? : Yaml.Node → Option Bool
  | .scalar ⟨s, true⟩ =>
      if ["true", "True", "TRUE"].contains s then some true
      else if ["false", "False", "FALSE"].contains s then some false
      else none
  | _ => none

/-- The texts of a sequence; nothing at all is an empty one. -/
def texts? : Yaml.Node → Option (List String)
  | .sequence items   => some (items.map (·.text))
  | .scalar ⟨"", true⟩ => some []
  | _                 => none

/-- The settings with a field set. -/
def withField? (s : Settings) (name : String) (value : Yaml.Node) : Option Settings :=
  match name with
  | "terraform_bin" => do return { s with planner := ← text? value }
  | "working_dir"   => do return { s with workingDir := ← text? value }
  | "output"        => do return { s with output := ← MoveForm.ofName? (← text? value) }
  | "moves_file"    => do return { s with movesFile := ← text? value }
  | "ignore"        => do return { s with ignore := ← texts? value }
  | "parallel"      => do return { s with parallel := ← flag? value }
  | "show_analysis" => do return { s with showAnalysis := ← flag? value }
  | _               => none

/-- The settings of a record. -/
def ofRecord? (r : Yaml.Record) : Option Settings :=
  if (r.map (·.1)).Nodup then r.foldlM (fun s e => s.withField? e.1 e.2) {} else none

/-- The settings of a text that a reader of YAML reads; a text that is all white space gives the
defaults. -/
def ofText? (yaml : Yaml.Reader) (content : String) : Option Settings :=
  if (Text.trim content.toList).isEmpty then some {}
  else (yaml content).bind ofRecord?

/-- The settings with the variables of the environment in place of what they override; or the name
of an output format that is none. -/
def override (s : Settings) (env : Environment) : Except String Settings := do
  let s := match env.get? "AUTOMV_TERRAFORM_BIN" with
    | some bin => { s with planner := bin }
    | none     => s
  let s ← match env.get? "AUTOMV_OUTPUT" with
    | some output => do pure { s with output := ← MoveForm.ofText? output }
    | none        => pure s
  return match env.get? "AUTOMV_MOVES_FILE" with
    | some file => { s with movesFile := file }
    | none      => s

end ResourceMoves.Settings
