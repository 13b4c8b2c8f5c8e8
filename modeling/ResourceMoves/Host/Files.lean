import ResourceMoves.Text.Utf8

/-!
# Files

What a path leads to (`Found`), and a disk, which has at each place a file, a directory or nothing
(`Disk`).  A path leads to the place that the system says; two paths may lead to the same one.
-/

namespace ResourceMoves

/-- What a path leads to: nothing, where something could be made or not; a directory; a file with a
text; or a file whose bytes are no text. -/
inductive Found
  | absent
  | blocked
  | directory
  | text (content : String)
  | binary
  deriving DecidableEq

namespace Found

/-- There is a file. -/
def isFile : Found → Bool
  | .text _ => true
  | .binary => true
  | _       => false

/-- There is a directory. -/
def isDirectory : Found → Bool
  | .directory => true
  | _          => false

end Found

/-- What a disk has at a place: nothing, where a file could be made or not; a directory; or a
file. -/
inductive Node
  | absent
  | blocked
  | directory
  | file (bytes : List UInt8)

namespace Node

/-- What a path leads to that leads to the node. -/
def found : Node → Found
  | .absent     => .absent
  | .blocked    => .blocked
  | .directory  => .directory
  | .file bytes => match Text.decode? bytes with
      | some content => .text content
      | none         => .binary

/-- The bytes that a file has when it is opened to be added to; it is made if there is none. -/
def opened? : Node → Option (List UInt8)
  | .absent     => some []
  | .file bytes => some bytes
  | _           => none

end Node

/-- A disk: the place that each path leads to, and what is there. -/
structure Disk where
  place : String → List String
  node  : List String → Node

namespace Disk

/-- What a path leads to. -/
def nodeAt (d : Disk) (path : String) : Node := d.node (d.place path)

/-- The disk with a file of the given bytes where a path leads. -/
def write (d : Disk) (path : String) (bytes : List UInt8) : Disk :=
  { d with node := fun q => if q = d.place path then .file bytes else d.node q }

/-- The disk with bytes at the end of a file, if it can be opened. -/
def append (d : Disk) (path : String) (bytes : List UInt8) : Disk :=
  match (d.nodeAt path).opened? with
  | some old => d.write path (old ++ bytes)
  | none     => d

end Disk

end ResourceMoves
