import ResourceMoves.Fault
import ResourceMoves.Host.Basic
import ResourceMoves.Host.Path
import ResourceMoves.Options
import ResourceMoves.Settings.Read

/-!
# Loading settings

Where settings come from, each source over the one before: the defaults, a configuration file, the
environment together with a file of variables beside the configuration file, and the options.  The
configuration file is the one that an option names, or the nearest one in the current directory and
those above it, or the user's own.
-/

namespace ResourceMoves.Settings

/-- The names of a configuration file, in the order in which they are tried. -/
def fileNames : List String := [".automv.yaml", ".automv.yml", "automv.yaml", "automv.yml"]

/-- The paths where a configuration file is looked for from a directory. -/
def searchPaths (start : String) (userConfig : Option String) : List String :=
  (Path.ancestors start).flatMap (fun d => fileNames.map (Path.join d)) ++
    (userConfig.map fun d => Path.join (Path.join d "automv") "config.yaml").toList

/-- The configuration file for a directory, if there is one. -/
def find? (look : String → Found) (start : String) (userConfig : Option String) : Option String :=
  (searchPaths start userConfig).find? fun p => (look p).isFile

/-- The settings of a YAML text, which comes from the given place. -/
def parse (yaml : Yaml.Reader) (location : Option String) (content : String) :
    Except Fault Settings :=
  match ofText? yaml content with
  | some s => .ok s
  | none   => .error (.settingsUnreadable location "not a record of settings in YAML")

/-- The settings of a file. -/
def ofFile (yaml : Yaml.Reader) (look : String → Found) (path : String) : Except Fault Settings :=
  match look path with
  | .absent       => .error (.settingsMissing path)
  | .blocked      => .error (.settingsMissing path)
  | .text content => parse yaml (some path) content
  | .directory    => .error (.settingsUnreadable (some path) "is a directory")
  | .binary       => .error (.settingsUnreadable (some path) "is not UTF-8")

/-- The settings with the overrides of an environment. -/
def overridden (env : Environment) (s : Settings) : Except Fault Settings :=
  (s.override env).mapError fun name => .settingsProblem (.unknownOutput name)

/-- The settings of a file, or the defaults, with the overrides of an environment. -/
def ofFileAndEnvironment (yaml : Yaml.Reader) (look : String → Found) (env : Environment)
    (path : Option String) : Except Fault Settings := do
  let s ← match path with
    | some p => ofFile yaml look p
    | none   => pure {}
  s.overridden env

/-- The file of variables in a directory. -/
def variablesPath (directory : String) : String := Path.join directory ".env"

/-- The environment with the variables of the file of variables in a directory, if it is there. -/
def loadVariables (variableFile : Environment.Reader) (look : String → Found) (env : Environment)
    (directory : String) : Environment × Except Fault Unit :=
  let path := variablesPath directory
  let unreadable : Except Fault Unit :=
    .error (.settingsUnreadable (some path) "is not a file of variables")
  match look path with
  | .absent       => (env, .ok ())
  | .blocked      => (env, .ok ())
  | .text content =>
      let (env, complete) := variableFile env content
      (env, if complete then .ok () else unreadable)
  | _             => (env, unreadable)

/-- The settings, if they have no problem. -/
def checked (look : String → Found) (s : Settings) : Except Fault Settings :=
  match s.problems fun p => (look p).isDirectory with
  | []     => .ok s
  | p :: _ => .error (.settingsProblem p)

/-- The configuration file of a run. -/
def configPath? (host : Host) (o : Options) : Option String :=
  match o.config with
  | some p => some p
  | none   => find? host.look host.currentDirectory host.userConfig

/-- The directory of a configuration file, in which the file of variables is looked for. -/
def variablesDirectory (path : Option String) : String := (path.bind Path.parent?).getD "."

/-- The environment and the settings of a run, which may still have problems. -/
def gather (host : Host) (o : Options) : Environment × Except Fault Settings :=
  let path := configPath? host o
  let (env, loaded) := loadVariables host.readers.variableFile host.look host.environment
    (variablesDirectory path)
  let settings := do
    loaded
    let s ← ofFileAndEnvironment host.readers.yaml host.look env path
    return o.apply s
  (env, settings)

/-- The environment and the settings of a run. -/
def load (host : Host) (o : Options) : Environment × Except Fault Settings :=
  let (env, gathered) := gather host o
  (env, gathered.bind (checked host.look))

end ResourceMoves.Settings
