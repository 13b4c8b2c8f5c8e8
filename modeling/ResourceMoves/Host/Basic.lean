import ResourceMoves.Host.Files
import ResourceMoves.Host.Readers
import ResourceMoves.Instant
import ResourceMoves.Planner

/-!
# The host of a run

What a run sees of the system that it runs on, all of it given before the run begins.
-/

namespace ResourceMoves

/-- A system to run on: the readers of what is given there, the variables, what paths lead to, the
current directory, the directory with the user's own configuration, the planners that are installed,
a path for a plan in between, the time, and whether the output goes to a terminal. -/
structure Host where
  readers          : Readers
  environment      : Environment
  look             : String → Found
  currentDirectory : String
  userConfig       : Option String
  planner?         : String → Option Planner
  planPath         : String
  now              : Instant
  terminal         : Bool

/-- The planner of a name. -/
def Host.installed (h : Host) (bin : String) : Installed := ⟨bin, h.planner? bin, h.readers.json⟩

/-- The system with a disk to look at. -/
def Host.on (host : Host) (d : Disk) : Host :=
  { host with look := fun path => (d.nodeAt path).found }

end ResourceMoves
