import ResourceMoves.Json.Printer
import ResourceMoves.Move.Basic
import ResourceMoves.Text.Ink

/-!
# Reports

What is told to the user besides the moves themselves: a text or JSON, with or without colours
(`Report`).  A notice is one line of either form.
-/

namespace ResourceMoves

/-- The form of reports. -/
inductive ReportForm
  | text
  | json
  deriving DecidableEq

/-- The form and look of reports. -/
structure Report where
  form   : ReportForm
  colour : Bool

/-- What kind of notice a line is. -/
inductive NoticeKind
  | info
  | success
  | error
  | warning
  deriving DecidableEq

/-- A line for the user. -/
structure Notice where
  kind    : NoticeKind
  message : String
  deriving DecidableEq

open Text (Ink)

/-- The kind in one word. -/
def NoticeKind.name : NoticeKind → String
  | .info    => "info"
  | .success => "success"
  | .error   => "error"
  | .warning => "warning"

/-- The sign of the kind and its colour. -/
def NoticeKind.sign : NoticeKind → String × Ink
  | .info    => ("•", .cyan)
  | .success => ("✓", .green)
  | .error   => ("✗", .red)
  | .warning => ("⚠", .yellow)

namespace Report

/-- A text in the ink, if the report has colours. -/
def paint (r : Report) (ink : Ink) (s : String) : String := ink.paint r.colour s

/-- A notice as a line. -/
def notice (r : Report) (n : Notice) : String :=
  match r.form with
  | .json =>
      (Json.Value.object [("message", .string n.message), ("status", .string n.kind.name)]).compact
  | .text =>
      let (sign, ink) := n.kind.sign
      r.paint ink sign ++ " " ++ n.message

/-- The moves that were found. -/
def moves (r : Report) (ms : List Move) : String :=
  match r.form with
  | .json => (Json.Value.array (ms.map Move.toJson)).pretty
  | .text =>
      if ms.isEmpty then r.paint .green "✓" ++ " Found no moves to make\n"
      else
        "Found " ++ Number.text ms.length ++ " moves:\n" ++ String.join (ms.map fun m =>
          "   " ++ m.origin ++ " " ++ r.paint .cyan "->" ++ " " ++ m.target ++ "\n")

end Report

end ResourceMoves
