import ResourceMoves.Digest.Sha256
import ResourceMoves.Json.Value
import ResourceMoves.Matching.Solve
import ResourceMoves.Text.Utf8

/-!
# Moves

A move says that the resource at one address is to be found at another from now on.  The fingerprint
of a list of moves is a digest of its addresses, each closed by a byte of its own
(`fingerprintInput`).
-/

namespace ResourceMoves

/-- A resource goes from one address to another. -/
structure Move where
  origin : String
  target : String
  deriving DecidableEq

namespace Move

/-- The move on one line. -/
def display (m : Move) : String := m.origin ++ " -> " ++ m.target

/-- The move as JSON. -/
def toJson (m : Move) : Json.Value := .object [("from", .string m.origin), ("to", .string m.target)]

/-- The bytes that stand for a move: its origin and a zero, its target and a line feed. -/
def fingerprintBytes (m : Move) : List UInt8 :=
  Text.encode m.origin ++ [0] ++ Text.encode m.target ++ [10]

/-- The bytes that are digested for a list of moves. -/
def fingerprintInput (moves : List Move) : List UInt8 := moves.flatMap fingerprintBytes

/-- The digest of a list of moves. -/
def fingerprint (moves : List Move) : String := Digest.Sha256.hex (fingerprintInput moves)

end Move

/-- The moves of the matches, in their order. -/
def Matching.moves (m : Matching) : List Move :=
  m.found.map fun c => ⟨c.delete.address, c.create.address⟩

end ResourceMoves
