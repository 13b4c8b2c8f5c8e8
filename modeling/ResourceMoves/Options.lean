import ResourceMoves.Report.Basic
import ResourceMoves.Settings.Basic

/-!
# Command-line options

What the words of a command line ask for.  An option has a long name and may have a letter; letters
may stand together after one hyphen.  The value of an option is joined to it or is the next word,
provided that this word does not itself look like an option.  Options but `--ignore` are given at
most once.
-/

namespace ResourceMoves

/-- What a command line asks for. -/
structure Options where
  config       : Option String := none
  verbose      : Bool := false
  dryRun       : Bool := false
  ignore       : List String := []
  noColor      : Bool := false
  output       : Option MoveForm := none
  showAnalysis : Bool := false
  report       : Option ReportForm := none
  planner      : Option String := none
  planFile     : Option String := none
  movesFile    : Option String := none
  noParallel   : Bool := false
  deriving DecidableEq

/-- Why a command line asks for nothing that can be run. -/
inductive UsageError
  | unknownArgument
  | invalidValue
  | argumentConflict
  | tooManyValues
  | displayHelp
  | displayVersion
  deriving DecidableEq

namespace Options

/-- The options that stand alone. -/
inductive Flag
  | verbose
  | dryRun
  | noColor
  | showAnalysis
  | noParallel
  | help
  | version
  deriving DecidableEq

/-- The options that have a value. -/
inductive Valued
  | config
  | ignore
  | output
  | report
  | planner
  | planFile
  | movesFile
  deriving DecidableEq

/-- The option of a long name. -/
def ofName? (name : String) : Option (Flag ⊕ Valued) :=
  match name with
  | "verbose"       => some (.inl .verbose)
  | "dry-run"       => some (.inl .dryRun)
  | "no-color"      => some (.inl .noColor)
  | "show-analysis" => some (.inl .showAnalysis)
  | "no-parallel"   => some (.inl .noParallel)
  | "help"          => some (.inl .help)
  | "version"       => some (.inl .version)
  | "config"        => some (.inr .config)
  | "ignore"        => some (.inr .ignore)
  | "output"        => some (.inr .output)
  | "report"        => some (.inr .report)
  | "terraform-bin" => some (.inr .planner)
  | "plan-file"     => some (.inr .planFile)
  | "moves-file"    => some (.inr .movesFile)
  | _               => none

/-- The option of a letter. -/
def ofLetter? (c : Char) : Option (Flag ⊕ Valued) :=
  match c with
  | 'v' => some (.inl .verbose)
  | 's' => some (.inl .showAnalysis)
  | 'h' => some (.inl .help)
  | 'V' => some (.inl .version)
  | 'c' => some (.inr .config)
  | 'i' => some (.inr .ignore)
  | 'o' => some (.inr .output)
  | _   => none

/-- The options with a flag set. -/
def setFlag (o : Options) : Flag → Except UsageError Options
  | .help         => .error .displayHelp
  | .version      => .error .displayVersion
  | .verbose      => once o.verbose { o with verbose := true }
  | .dryRun       => once o.dryRun { o with dryRun := true }
  | .noColor      => once o.noColor { o with noColor := true }
  | .showAnalysis => once o.showAnalysis { o with showAnalysis := true }
  | .noParallel   => once o.noParallel { o with noParallel := true }
where
  /-- The options, if this one was not given before. -/
  once (given : Bool) (o : Options) : Except UsageError Options :=
    if given then .error .argumentConflict else .ok o

/-- The options with a value set, if the option was not given before. -/
def setOnce {α : Type} (given : Option α) (value : Option α) (set : α → Options) :
    Except UsageError Options :=
  if given.isSome then .error .argumentConflict
  else match value with
    | some a => .ok (set a)
    | none   => .error .invalidValue

/-- The path that a value names; the empty text is none. -/
def path? (s : String) : Option String := if s.isEmpty then none else some s

/-- The report form of a name. -/
def reportForm? (s : String) : Option ReportForm :=
  if s = "text" then some .text else if s = "json" then some .json else none

/-- The options with a value set. -/
def setValue (o : Options) (v : Valued) (s : String) : Except UsageError Options :=
  match v with
  | .ignore    => .ok { o with ignore := o.ignore ++ [s] }
  | .config    => setOnce o.config (path? s) fun a => { o with config := some a }
  | .output    => setOnce o.output (MoveForm.ofName? s) fun a => { o with output := some a }
  | .report    => setOnce o.report (reportForm? s) fun a => { o with report := some a }
  | .planner   => setOnce o.planner (some s) fun a => { o with planner := some a }
  | .planFile  => setOnce o.planFile (path? s) fun a => { o with planFile := some a }
  | .movesFile => setOnce o.movesFile (some s) fun a => { o with movesFile := some a }

/-- An option whose value may be the next word; the value, once it is there, is taken when the next
option or the end comes. -/
structure Pending where
  option : Valued
  value  : Option String

/-- The options with a pending value taken. -/
def settle (o : Options) : Option Pending → Except UsageError Options
  | none             => .ok o
  | some ⟨v, some s⟩ => o.setValue v s
  | some ⟨_, none⟩   => .error .invalidValue

/-- The text of an attached value, without the equals sign that may stand before it. -/
def attached? : List Char → Option String
  | []       => none
  | '=' :: r => some (.ofList r)
  | r        => some (.ofList r)

/-- The options after letters that stand together. -/
def letters (o : Options) (pending : Option Pending) :
    List Char → Except UsageError (Options × Option Pending)
  | []     => .ok (o, pending)
  | c :: r => match ofLetter? c with
      | none => .error .unknownArgument
      | some (.inl f) => do
          let o ← o.settle pending
          let o ← o.setFlag f
          letters o none r
      | some (.inr v) => do
          let o ← o.settle pending
          match attached? r with
          | some s => return (← o.setValue v s, none)
          | none   => return (o, some ⟨v, none⟩)

/-- The options after a long option, which may have a value attached. -/
def long (o : Options) (pending : Option Pending) (name : String) (value : Option String) :
    Except UsageError (Options × Option Pending) :=
  match ofName? name, value with
  | none,          _      => .error .unknownArgument
  | some (.inl _), some _ => .error .tooManyValues
  | some (.inl f), none   => do
      let o ← o.settle pending
      return (← o.setFlag f, none)
  | some (.inr v), some s => do
      let o ← o.settle pending
      return (← o.setValue v s, none)
  | some (.inr v), none   => do
      let o ← o.settle pending
      return (o, some ⟨v, none⟩)

/-- The options after the words of a command line. -/
def read (o : Options) (pending : Option Pending) : List String → Except UsageError Options
  | []           => o.settle pending
  | word :: rest => match word.toList with
      | ['-', '-'] => if rest.isEmpty then o.settle pending else .error .unknownArgument
      | '-' :: '-' :: r => do
          let (name, after) := r.span (· != '=')
          let value := if after.isEmpty then none else some (String.ofList (after.drop 1))
          let (o, pending) ← o.long pending (.ofList name) value
          read o pending rest
      | '-' :: c :: r => do
          let (o, pending) ← o.letters pending (c :: r)
          read o pending rest
      | _ => match pending with
          | some ⟨v, none⟩ => read o (some ⟨v, some word⟩) rest
          | _              => .error .unknownArgument

/-- What the words of a command line ask for. -/
def ofWords (words : List String) : Except UsageError Options := read {} none words

/-- The options, with the path of the configuration taken from a variable if no option gives it. -/
def withConfigVariable (o : Options) (fromVariable : Option String) : Except UsageError Options :=
  match o.config, fromVariable with
  | none, some s => match path? s with
      | some p => .ok { o with config := some p }
      | none   => .error .invalidValue
  | _, _ => .ok o

/-- The settings with the options in place of what they override.  Rules are added to the others. -/
def apply (o : Options) (s : Settings) : Settings where
  planner      := o.planner.getD s.planner
  workingDir   := s.workingDir
  output       := o.output.getD s.output
  movesFile    := o.movesFile.getD s.movesFile
  ignore       := s.ignore ++ o.ignore
  parallel     := s.parallel && !o.noParallel
  showAnalysis := s.showAnalysis || o.showAnalysis

/-- The form of reports that is asked for; it is text when nothing is said. -/
def reportForm (o : Options) : ReportForm := o.report.getD .text

end Options

end ResourceMoves
