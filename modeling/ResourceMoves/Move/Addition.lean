import ResourceMoves.Fault
import ResourceMoves.Host.Files
import ResourceMoves.Move.Render

/-!
# Adding moves to a file

What is added to the end of a file for a batch of moves, given what the path of the file leads
to.  A file that is not there yet is made; where none can be, that is a fault and nothing is
added.
-/

namespace ResourceMoves.Move

/-- The text to add where a path leads to `found`. -/
def addition (found : Found) (time : Instant) (moves : List Move) : Except Fault String :=
  match found with
  | .absent       => .ok (batch true time moves)
  | .text content => .ok (batch content.isEmpty time moves)
  | .binary       => .ok (batch false time moves)
  | .directory    => .error (.system "is a directory")
  | .blocked      => .error (.system "no such directory")

end ResourceMoves.Move
