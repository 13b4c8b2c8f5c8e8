import ResourceMoves.Text.Blank
import ResourceMoves.Host.Path

/-!
# Settings

What a run is told by its configuration: the planner, where it works, and how moves are handed over.
Every setting has a default.
-/

namespace ResourceMoves

/-- How moves are handed over: as blocks at the end of a file, or as commands. -/
inductive MoveForm
  | blocks
  | commands
  deriving DecidableEq

namespace MoveForm

/-- The form in one word. -/
def name : MoveForm → String
  | .blocks   => "blocks"
  | .commands => "commands"

/-- The form of exactly that name. -/
def ofName? (s : String) : Option MoveForm :=
  if s = "blocks" then some .blocks else if s = "commands" then some .commands else none

/-- A text as it is looked up among the names: without white space around it, and with small ASCII
letters. -/
def folded (s : String) : String := .ofList ((Text.trim s.toList).map Char.toLower)

/-- The form that a text names, in any case and with white space around it; or the name that is
none. -/
def ofText? (s : String) : Except String MoveForm :=
  match ofName? (folded s) with
  | some form => .ok form
  | none      => .error (folded s)

/-- The complaint about a name that is no form. -/
def unknownMessage (name : String) : String :=
  "unknown output format '" ++ name ++ "' (expected blocks or commands)"

end MoveForm

/-- The settings of a run. -/
structure Settings where
  planner      : String := "terraform"
  workingDir   : String := "."
  output       : MoveForm := .blocks
  movesFile    : String := "moves.tf"
  ignore       : List String := []
  parallel     : Bool := true
  showAnalysis : Bool := false
  deriving DecidableEq

namespace Settings

/-- The file that blocks are added to. -/
def movesPath (s : Settings) : String := Path.join s.workingDir s.movesFile

/-- The planner must be recent enough for the blocks that it is handed. -/
def requiresVersionCheck (s : Settings) : Bool := s.output == .blocks

end Settings

end ResourceMoves
