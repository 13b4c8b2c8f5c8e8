import ResourceMoves.Move.Addition
import ResourceMoves.Report.Analysis
import ResourceMoves.Settings.Load

/-!
# A run

The program from its options to what it leaves behind (`Outcome`).  The settings are loaded and
checked; the planner's version is checked if blocks are asked for; the plan is read or made, and
analysed; and then, unless there is no move or nothing is to be written, the moves are handed over
in exactly one of two ways: at the end of a file, or on the standard output.
-/

namespace ResourceMoves

/-- Where a plan comes from: a file, or a planner. -/
inductive PlanSource
  | file (path : String)
  | planner (i : Installed)

namespace PlanSource

/-- The source in words. -/
def describe : PlanSource → String
  | .file path  => "plan file " ++ path
  | .planner i  => "\"" ++ i.bin ++ " plan\""

/-- The plan of a source. -/
def load (host : Host) : PlanSource → Work Plan
  | .planner i => i.plan host.planPath
  | .file path => .ofExcept <| match host.look path with
      | .text content => Plan.read host.readers.json content
      | .directory    => .error (.system "is a directory")
      | .binary       => .error (.system "is not UTF-8")
      | _             => .error (.system "no such file")

/-- The matching of a source's plan under ignore rules. -/
def analyse (host : Host) (watch : Matching.Watch) (rules : List Ignore.Rule) (s : PlanSource) :
    Work Matching := do
  let plan ← s.load host
  .inform "Analysing plan..."
  .ofExcept (plan.analyse watch rules)

end PlanSource

/-- What a run leaves behind: the status, what was written to the two outputs, the calls of the
planner, and a text at the end of a file. -/
structure Outcome where
  status   : Nat
  stdout   : String
  stderr   : String
  calls    : List Call
  appended : Option (String × String)

/-- The disk that an outcome leaves of one. -/
def Outcome.leaves (out : Outcome) (d : Disk) : Disk :=
  match out.appended with
  | some (path, text) => d.append path (Text.encode text)
  | none              => d

namespace Run

/-- The status after a fault. -/
def faultStatus (f : Fault) : Nat := if f.isUsers then 2 else 1

/-- Colours are shown: they are forced by a variable, or there is a terminal for them and no
variable refuses them; and no option refuses them. -/
def showsColour (terminal : Bool) (env : Environment) (o : Options) : Bool :=
  let forced := (env.get? "CLICOLOR_FORCE").any (· != "0")
  let refused := (env.get? "NO_COLOR").isSome || env.get? "CLICOLOR" == some "0"
  !o.noColor && (forced || (terminal && !refused))

/-- Notices, each on its line. -/
def noticeLines (r : Report) (ns : List Notice) : String :=
  String.join (ns.map fun n => r.notice n ++ "\n")

/-- The version of the planner, if the settings call for it, is high enough. -/
def versionGate (host : Host) (s : Settings) : Work Unit :=
  if s.requiresVersionCheck then do
    let v ← (host.installed s.planner).version
    .ofExcept v.requireMovedBlocks
  else .done ()

/-- The source that options and settings name; a file is announced. -/
def source (host : Host) (o : Options) (s : Settings) : Work PlanSource :=
  match o.planFile with
  | some path => do
      .inform ("Reading plan from " ++ path ++ "...")
      return .file path
  | none => .done (.planner (host.installed s.planner))

/-- All work up to the matching. -/
def matching (host : Host) (o : Options) (s : Settings) : Work Matching := do
  let rules ← .ofExcept (Ignore.rules? s.ignore)
  versionGate host s
  let src ← source host o s
  src.analyse host Matching.Watch.never rules

/-- The outcome of a fault after `said`. -/
def failed (r : Report) (said : String) (calls : List Call) (f : Fault) : Outcome where
  status   := faultStatus f
  stdout   := ""
  stderr   := said ++ noticeLines r [⟨.error, f.message⟩]
  calls    := calls
  appended := none

/-- The outcome of handing over moves as blocks, after `said`. -/
def appendBlocks (host : Host) (r : Report) (s : Settings) (said : String) (calls : List Call)
    (moves : List Move) : Outcome :=
  match Move.addition (host.look s.movesPath) host.now moves with
  | .error f => failed r said calls f
  | .ok text =>
      { status := 0, stdout := "", calls
        stderr := said ++ noticeLines r [⟨.success,
          "Added " ++ Number.text moves.length ++ " moved blocks to " ++ s.movesPath⟩]
        appended := some (s.movesPath, text) }

/-- The outcome of handing over moves as commands, after `said`. -/
def printCommands (r : Report) (s : Settings) (said : String) (calls : List Call)
    (moves : List Move) : Outcome where
  status   := 0
  stdout   := Move.commands s.planner moves
  stderr   := said ++ noticeLines r
    [⟨.info, "Wrote " ++ Number.text moves.length ++ " commands to standard output."⟩]
  calls    := calls
  appended := none

/-- The outcome of a matching, after `said`. -/
def handOver (host : Host) (r : Report) (o : Options) (s : Settings) (said : String)
    (calls : List Call) (m : Matching) : Outcome :=
  let said := if s.showAnalysis then said ++ r.matching m ++ "\n" else said
  if m.moves.isEmpty || o.dryRun then
    { status := 0, stdout := "", stderr := said ++ r.moves m.moves, calls, appended := none }
  else match s.output with
    | .blocks   => appendBlocks host r s said calls m.moves
    | .commands => printCommands r s said calls m.moves

end Run

/-- The outcome of a run. -/
def run (host : Host) (o : Options) : Outcome :=
  let (env, loaded) := Settings.load host o
  let r : Report := ⟨o.reportForm, Run.showsColour host.terminal env o⟩
  match loaded with
  | .error f => Run.failed r "" [] f
  | .ok s =>
      let warned := Run.noticeLines r (s.warnings.map (⟨.warning, ·⟩))
      let work := Run.matching host o s
      let said := warned ++ Run.noticeLines r work.notices
      match work.result with
      | .error f => Run.failed r said work.calls f
      | .ok m    => Run.handOver host r o s said work.calls m

end ResourceMoves
