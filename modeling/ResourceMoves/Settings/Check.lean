import ResourceMoves.Host.Files
import ResourceMoves.Ignore.Rule
import ResourceMoves.Settings.Basic

/-!
# Checking settings

What can be wrong with settings before any work is done.  The first problem, in a fixed order, stops
a run; a rule that is listed twice only calls for a warning.
-/

namespace ResourceMoves.Settings

/-- What is wrong with settings. -/
inductive Problem
  | emptyPlanner
  | missingDirectory (path : String)
  | emptyMovesFile
  | movesFileExtension (path : String)
  | rule (index : Nat) (text : String) (defect : Ignore.Defect)
  | unknownOutput (name : String)
  deriving DecidableEq

/-- The setting that is wrong. -/
def Problem.field : Problem → String
  | .emptyPlanner         => "terraform_bin"
  | .missingDirectory _   => "working_dir"
  | .emptyMovesFile       => "moves_file"
  | .movesFileExtension _ => "moves_file"
  | .rule i _ _           => "ignore[" ++ Number.text i ++ "]"
  | .unknownOutput _      => "AUTOMV_OUTPUT"

/-- A rule that is none, in words. -/
def ruleMessage (text : String) (defect : Ignore.Defect) : String :=
  "Ignore rule error: Invalid ignore rule " ++ Text.quoted text ++ ": " ++ defect.message

/-- The problem in words. -/
def Problem.message : Problem → String
  | .emptyPlanner            => "Terraform binary cannot be empty"
  | .missingDirectory path   => "Working directory '" ++ path ++ "' does not exist"
  | .emptyMovesFile          => "Moves file cannot be empty"
  | .movesFileExtension path => "Moves file '" ++ path ++ "' must have a .tf extension"
  | .rule _ text defect      => ruleMessage text defect
  | .unknownOutput name      => MoveForm.unknownMessage name

/-- A text is empty, white space aside. -/
def isVoid (s : String) : Bool := (Text.trim s.toList).isEmpty

/-- The problems of the rules, the first of which has the given index. -/
def ruleProblems (i : Nat) : List String → List Problem
  | []      => []
  | r :: rs => match Ignore.Rule.ofText? r with
      | .error defect => .rule i r defect :: ruleProblems (i + 1) rs
      | .ok _         => ruleProblems (i + 1) rs

/-- The problems of settings in order; `isDirectory` says where directories are. -/
def problems (isDirectory : String → Bool) (s : Settings) : List Problem :=
  (if isVoid s.planner then [.emptyPlanner] else []) ++
    (if isDirectory s.workingDir then [] else [.missingDirectory s.workingDir]) ++
    (if isVoid s.movesFile then [.emptyMovesFile]
      else if ".tf".toList.isSuffixOf s.movesFile.toList then []
      else [.movesFileExtension s.movesFile]) ++
    ruleProblems 0 s.ignore

/-- A warning for each valid rule whose text stands earlier in the list, or among `seen`. -/
def repeatWarnings (seen : List String) : List String → List String
  | []      => []
  | r :: rs => match Ignore.Rule.ofText? r with
      | .error _ => repeatWarnings seen rs
      | .ok _    =>
          if seen.contains r then
            ("Ignore rule " ++ Text.quoted r ++ " is listed more than once") ::
              repeatWarnings seen rs
          else repeatWarnings (r :: seen) rs

/-- The warnings about settings. -/
def warnings (s : Settings) : List String := repeatWarnings [] s.ignore

end ResourceMoves.Settings
