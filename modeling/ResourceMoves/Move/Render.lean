import ResourceMoves.Instant
import ResourceMoves.Move.Basic
import ResourceMoves.Text.ShellWord

/-!
# Written moves

Two ways to hand moves to the planner: `moved` blocks, which go to the end of a file under a comment
with the time (`batch`), and shell commands that move the state at once.
-/

namespace ResourceMoves.Move

/-- The block for a move. -/
def block (m : Move) : String :=
  "moved \x7b\n  from = " ++ m.origin ++ "\n  to   = " ++ m.target ++ "\n\x7d\n"

/-- The blocks for moves, with an empty line between two. -/
def blocks (moves : List Move) : String := "\n".intercalate (moves.map block)

/-- The command for a move; `bin` is the planner. -/
def command (bin : String) (m : Move) : String :=
  bin ++ " state mv " ++ Text.shellWord m.origin ++ " " ++ Text.shellWord m.target ++ "\n"

/-- The commands for moves. -/
def commands (bin : String) (moves : List Move) : String := String.join (moves.map (command bin))

/-- What is added to a file: a line break if the file has anything in it, a comment with the time,
an empty line, and the blocks. -/
def batch (fileIsEmpty : Bool) (time : Instant) (moves : List Move) : String :=
  (if fileIsEmpty then "" else "\n") ++ "# Added by automv on " ++ time.text ++ "\n\n" ++
    blocks moves

end ResourceMoves.Move
