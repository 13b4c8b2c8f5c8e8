import ResourceMoves.Matching.Solve
import ResourceMoves.Settings.Check
import ResourceMoves.Version

/-!
# Faults

Everything that can stop a run, by its cause, with the words for it (`Fault.message`).  A fault that
the user's own input is to blame for is told apart from all others (`Fault.isUsers`).  What the
system or a reader of a format has to say is kept as a detail.
-/

namespace ResourceMoves

/-- Why a run stops. -/
inductive Fault
  | settingsMissing (path : String)
  | settingsUnreadable (location : Option String) (detail : String)
  | settingsProblem (problem : Settings.Problem)
  | planUnreadable (detail : String)
  | planEntry (address : String) (defect : Plan.Defect)
  | rule (text : String) (defect : Ignore.Defect)
  | duplicate (side : Plan.Side) (address : String)
  | cancelled
  | plannerMissing (bin : String) (detail : String)
  | plannerFailed (command : String) (status : Int) (output : String)
  | versionUnknown (text : String)
  | versionTooOld (found : Version)
  | system (detail : String)
  deriving DecidableEq

namespace Fault

/-- The fault in words. -/
def message : Fault → String
  | .settingsMissing path => "Configuration error: Configuration file not found: " ++ path
  | .settingsUnreadable _ detail => "Configuration error: Failed to parse configuration: " ++ detail
  | .settingsProblem p => "Configuration error: Configuration validation failed: " ++ p.message
  | .planUnreadable detail => "Plan error: Failed to decode plan: " ++ detail
  | .planEntry address defect =>
      "Plan error: Malformed plan entry '" ++ address ++ "': " ++ defect.message
  | .rule text defect => Settings.ruleMessage text defect
  | .duplicate side address =>
      "Analysis error: Duplicate " ++ side.name ++ " candidate address: " ++ address
  | .cancelled => "Analysis error: Analysis cancelled"
  | .plannerMissing bin detail => "Terraform error: Failed to run " ++ bin ++ ": " ++ detail
  | .plannerFailed command status output =>
      "Terraform error: '" ++ command ++ "' failed with status " ++ Number.intText status ++ ": " ++
        output
  | .versionUnknown text => "Terraform error: Unrecognized terraform version: " ++ text
  | .versionTooOld found =>
      "Terraform error: Terraform version " ++ found.display ++
        " does not support moved blocks (requires " ++ Version.firstWithMovedBlocks.display ++
        " or later)"
  | .system detail => "IO error: " ++ detail

/-- The user's input is to blame. -/
def isUsers : Fault → Bool
  | .settingsMissing _      => true
  | .settingsUnreadable _ _ => true
  | .settingsProblem _      => true
  | .planUnreadable _       => true
  | .planEntry _ _          => true
  | .rule _ _               => true
  | .duplicate _ _          => true
  | _                       => false

/-- The fault of a refusal to match. -/
def ofRefusal : Matching.Refusal → Fault
  | .duplicate side address => .duplicate side address
  | .cancelled              => .cancelled

end Fault

/-- The rules that texts spell; the first text that is none is a fault. -/
def Ignore.rules? (texts : List String) : Except Fault (List Ignore.Rule) :=
  texts.mapM fun text => (Ignore.Rule.ofText? text).mapError (Fault.rule text)

/-- The version that a text spells. -/
def Version.read (text : String) : Except Fault Version :=
  match Version.ofText? text with
  | some v => .ok v
  | none   => .error (.versionUnknown text)

/-- The version applies `moved` blocks, or that is a fault. -/
def Version.requireMovedBlocks (v : Version) : Except Fault Unit :=
  if v.supportsMovedBlocks then .ok () else .error (.versionTooOld v)

end ResourceMoves
