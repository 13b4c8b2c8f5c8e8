import ResourceMoves.Attribute.Display
import ResourceMoves.Json.Printer
import ResourceMoves.Json.Reader

/-!
# Attribute trees and JSON

Every JSON value is an attribute tree, whose numbers are doubles.  In JSON, a whole number below
2⁵³ is written as an integer, which is exact; an infinity or `nan` has no number in JSON and becomes
null.
-/

namespace ResourceMoves.Attribute

open ResourceMoves.Number (Binary64)

/-- A JSON number as a double. -/
def Scalar.ofNumber : Json.Number → Scalar
  | .integer i => .number (.ofInt i)
  | .float x   => .number x

/-- The bound below which every integer is a double. -/
def exactBound : Nat := Number.pow2 53

/-- A double as a JSON number, if it is one. -/
def numberToJson (x : Binary64) : Json.Value :=
  if x.isFinite then
    match x.whole? with
    | some i => if i.natAbs < exactBound then .int i else .number (.float x)
    | none   => .number (.float x)
  else .null

/-- A scalar as JSON. -/
def Scalar.toJson : Scalar → Json.Value
  | .null     => .null
  | .bool b   => .bool b
  | .number x => numberToJson x
  | .text s   => .string s

namespace Tree

mutual

/-- The tree that a JSON value stands for. -/
def ofJson : Json.Value → Tree
  | .null           => .leaf .null
  | .bool b         => .leaf (.bool b)
  | .number n       => .leaf (.ofNumber n)
  | .string s       => .leaf (.text s)
  | .array items    => .list (ofJsonItems items)
  | .object entries => .map (ofJsonEntries entries)

/-- The trees of an array's items. -/
def ofJsonItems : List Json.Value → List Tree
  | []      => []
  | v :: vs => ofJson v :: ofJsonItems vs

/-- The trees of an object's entries. -/
def ofJsonEntries : List (String × Json.Value) → List (String × Tree)
  | []           => []
  | (k, v) :: es => (k, ofJson v) :: ofJsonEntries es

end

mutual

/-- A tree as JSON. -/
def toJson : Tree → Json.Value
  | .leaf s      => s.toJson
  | .list items  => .array (toJsonItems items)
  | .map entries => .object (toJsonEntries entries)

/-- The items of a list as JSON. -/
def toJsonItems : List Tree → List Json.Value
  | []      => []
  | t :: ts => t.toJson :: toJsonItems ts

/-- The entries of a map as JSON. -/
def toJsonEntries : List (String × Tree) → List (String × Json.Value)
  | []           => []
  | (k, t) :: es => (k, t.toJson) :: toJsonEntries es

end

/-- The tree that a JSON text spells. -/
def ofText? (s : String) : Option Tree := (Json.Value.ofText? s).map ofJson

/-- The tree as compact JSON text. -/
def jsonText (t : Tree) : String := t.toJson.compact

end Tree

/-- A difference as JSON. -/
def Difference.toJson (d : Difference) : Json.Value :=
  .object [("path", .string d.path.display), ("before", .orNull (d.before.map Tree.toJson)),
    ("after", .orNull (d.after.map Tree.toJson)), ("ignored", .bool d.ignored)]

end ResourceMoves.Attribute
