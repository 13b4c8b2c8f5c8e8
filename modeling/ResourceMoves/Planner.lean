import ResourceMoves.Analysis
import ResourceMoves.Report.Basic

/-!
# The planner

Work that calls the planner (`Work`): the calls that were made and the notices that were given, in
order, and a result or the fault that stopped it.  A planner is known by what it replies to each of
its subcommands.
-/

namespace ResourceMoves

/-- A subcommand of the planner. -/
inductive Subcommand
  | version
  | init
  | plan (out : String)
  | «show» (file : String)
  deriving DecidableEq

/-- The words of a subcommand. -/
def Subcommand.words : Subcommand → List String
  | .version   => ["version", "-json"]
  | .init      => ["init", "-input=false"]
  | .plan out  => ["plan", "-input=false", "-lock=false", "-out=" ++ out]
  | .show file => ["show", "-json", file]

/-- What a planner replies: its two outputs, and the status with which it ended, if it was not
killed. -/
structure Reply where
  stdout : List UInt8
  stderr : List UInt8
  status : Option Int

/-- A planner, by its replies. -/
abbrev Planner := Subcommand → Reply

/-- A call of a planner. -/
structure Call where
  bin        : String
  subcommand : Subcommand
  deriving DecidableEq

/-- The call as it would be typed. -/
def Call.text (c : Call) : String := " ".intercalate (c.bin :: c.subcommand.words)

/-- Work that calls planners and gives notices. -/
structure Work (α : Type) where
  calls   : List Call
  notices : List Notice
  result  : Except Fault α

namespace Work

variable {α β : Type}

/-- Work that does nothing. -/
def done (a : α) : Work α := ⟨[], [], .ok a⟩

/-- Work that stops at once. -/
def stop (f : Fault) : Work α := ⟨[], [], .error f⟩

/-- Work that only has a result. -/
def ofExcept (r : Except Fault α) : Work α := ⟨[], [], r⟩

/-- Work that gives a notice of progress. -/
def inform (message : String) : Work Unit := ⟨[], [⟨.info, message⟩], .ok ()⟩

/-- Work, and then the work that its result asks for. -/
def andThen (w : Work α) (next : α → Work β) : Work β :=
  match w.result with
  | .error f => ⟨w.calls, w.notices, .error f⟩
  | .ok a    =>
      let v := next a
      ⟨w.calls ++ v.calls, w.notices ++ v.notices, v.result⟩

instance : Monad Work where
  pure := done
  bind := andThen

end Work

/-- A planner's name, the planner when it is installed, and the reader of what it writes. -/
structure Installed where
  bin     : String
  planner : Option Planner
  json    : Json.Reader

namespace Installed

/-- Calls the planner for what it writes; a status other than zero is a fault. -/
def call (i : Installed) (s : Subcommand) : Work (List UInt8) :=
  match i.planner with
  | none => .stop (.plannerMissing i.bin "not installed")
  | some planner =>
      let reply := planner s
      let c : Call := ⟨i.bin, s⟩
      { calls := [c], notices := []
        result :=
          if reply.status = some 0 then .ok reply.stdout
          else .error <| .plannerFailed c.text (reply.status.getD (-1))
            (Text.trimmed (Text.decodeLossy reply.stderr)) }

/-- The version that a planner's output tells. -/
def readVersion (json : Json.Reader) (output : List UInt8) : Except Fault Version :=
  let told : Option String := do
    match ← (← json (Text.decode output)).fields? ["terraform_version"] with
    | [some d] => d.text?
    | _        => none
  match told with
  | some text => Version.read text
  | none      => .error (.versionUnknown (Text.trimmed (Text.decodeLossy output)))

/-- The version of the planner. -/
def version (i : Installed) : Work Version := do
  let output ← i.call .version
  .ofExcept (readVersion i.json output)

/-- The plan that a planner's output is. -/
def readPlan (json : Json.Reader) (output : List UInt8) : Except Fault Plan :=
  match Text.decode? output with
  | some text => Plan.read json text
  | none      => .error (.planUnreadable "plan output is not UTF-8")

/-- Announces a subcommand. -/
def announce (i : Installed) (name : String) : Work Unit :=
  .inform ("Running \"" ++ i.bin ++ " " ++ name ++ "\"...")

/-- The plan that the planner makes; `file` is where it is kept in between. -/
def plan (i : Installed) (file : String) : Work Plan := do
  i.announce "init"
  let _ ← i.call .init
  i.announce "plan"
  let _ ← i.call (.plan file)
  let output ← i.call (.show file)
  .ofExcept (readPlan i.json output)

end Installed

end ResourceMoves
