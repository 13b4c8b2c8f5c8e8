import ResourceMoves.Run
import Std.Time.DateTime.Timestamp

/-!
# The program

Reads what a run depends on (the variables, the files, and the time), runs, and writes what the
run leaves behind.  No planner is started from here, so a plan has to be given as a file, and a
call of a planner ends the run with a fault.
-/

namespace ResourceMoves

/-- How the program is called. -/
def usage : String :=
  "Usage: resource-moves [OPTIONS]\n\n" ++
  "  -c, --config FILE         the configuration file\n" ++
  "  -v, --verbose             say more\n" ++
  "      --dry-run             show moves without handing them over\n" ++
  "  -i, --ignore RULE         ignore differences; may be repeated\n" ++
  "      --no-color            show no colours\n" ++
  "  -o, --output FORM         hand moves over as blocks or commands\n" ++
  "  -s, --show-analysis       show what was compared\n" ++
  "      --report FORM         report as text or json\n" ++
  "      --terraform-bin NAME  the planner\n" ++
  "      --plan-file FILE      read a plan instead of making one\n" ++
  "      --moves-file FILE     the file that blocks are added to\n" ++
  "      --no-parallel         compare on one thread\n" ++
  "  -h, --help                show this text\n" ++
  "  -V, --version             show the version\n"

/-- What is wrong with a command line, in words. -/
def UsageError.message : UsageError → String
  | .unknownArgument  => "there is an argument that is no option"
  | .invalidValue     => "an option has no value or one that it cannot have"
  | .argumentConflict => "an option is given more than once"
  | .tooManyValues    => "an option has a value but takes none"
  | .displayHelp      => usage
  | .displayVersion   => "resource-moves 0.1.0\n"

/-- The status after a command line that asks for nothing that can be run. -/
def UsageError.status : UsageError → UInt32
  | .displayHelp    => 0
  | .displayVersion => 0
  | _               => 2

/-- The variables that the program itself looks at. -/
def variableNames : List String :=
  ["AUTOMV_CONFIG", "AUTOMV_TERRAFORM_BIN", "AUTOMV_OUTPUT", "AUTOMV_MOVES_FILE", "CLICOLOR_FORCE",
   "CLICOLOR", "NO_COLOR", "XDG_CONFIG_HOME", "HOME"]

/-- The values of variables. -/
def environmentOf (names : List String) : IO Environment :=
  names.eraseDups.filterMapM fun name => do return (← IO.getEnv name).map (name, ·)

/-- What a path leads to. -/
def examine (path : String) : IO Found := do
  if path.isEmpty then return .absent
  let p := (← IO.currentDir) / path
  if ← p.isDir then return .directory
  if ← p.pathExists then
    return match Text.decode? (← IO.FS.readBinFile p).toList with
      | some content => .text content
      | none         => .binary
  match p.parent with
  | some above => return if ← above.isDir then .absent else .blocked
  | none       => return .absent

/-- What paths lead to; those that are not listed count as leading nowhere. -/
def examineAll (paths : List String) : IO (String → Found) := do
  let found ← paths.eraseDups.mapM fun path => do return (path, ← examine path)
  return fun path => (found.lookup path).getD .absent

/-- The time. -/
def currentInstant : IO Instant := do
  let t ← Std.Time.Timestamp.now
  let nanos := t.toNanosecondsSinceUnixEpoch.val
  return ⟨nanos.fdiv 1000000000, (nanos.fmod 1000000000).toNat⟩

/-- The system that options are run on.  Each stage tells which paths the next one needs: where a
configuration may be, the file of variables beside it, and what the settings name. -/
def hostOf (env : Environment) (o : Options) : IO Host := do
  let here := (← IO.currentDir).toString
  let userConfig := env.configDirectory?
  let paths := o.planFile.toList ++ o.config.elim (Settings.searchPaths here userConfig) ([·])
  let bare : Host := {
    readers := .standard, environment := env, look := ← examineAll paths
    currentDirectory := here, userConfig
    planner? := fun _ => none, planPath := "", now := ← currentInstant
    terminal := ← (← IO.getStdout).isTty }
  let variablesPath :=
    Settings.variablesPath (Settings.variablesDirectory (Settings.configPath? bare o))
  let mentioned := match ← examine variablesPath with
    | .text content => Environment.mentioned content
    | _             => []
  let host : Host := { bare with
    environment := ← environmentOf (variableNames ++ mentioned)
    look := ← examineAll (variablesPath :: paths) }
  match (Settings.gather host o).2 with
  | .error _ => return host
  | .ok s    => return { host with
      look := ← examineAll (s.workingDir :: s.movesPath :: variablesPath :: paths) }

/-- Runs what a command line asks for. -/
def runWords (words : List String) : IO UInt32 := do
  let env ← environmentOf variableNames
  match Options.ofWords words >>= (·.withConfigVariable (env.get? "AUTOMV_CONFIG")) with
  | .error e =>
      let out ← if e.status = 0 then IO.getStdout else IO.getStderr
      out.putStr (if e.status = 0 then e.message else "error: " ++ e.message ++ "\n\n" ++ usage)
      return e.status
  | .ok o =>
      let outcome := run (← hostOf env o) o
      for (path, text) in outcome.appended do
        IO.FS.withFile ((← IO.currentDir) / path) .append (·.putStr text)
      (← IO.getStdout).putStr outcome.stdout
      (← IO.getStderr).putStr outcome.stderr
      return outcome.status.toUInt32

end ResourceMoves

/-- The program. -/
def main (words : List String) : IO UInt32 := ResourceMoves.runWords words
