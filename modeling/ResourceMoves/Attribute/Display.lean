import ResourceMoves.Attribute.Difference
import ResourceMoves.Number.Notation
import ResourceMoves.Text.Quoted

/-!
# Attribute trees as text

How values, paths and differences read in a report.  Texts and keys are quoted, so a text never
looks like a number or like a tree; a path is its steps with dots between them.
-/

namespace ResourceMoves.Attribute

open ResourceMoves.Text (quoted)

/-- A scalar: texts in quotes, numbers in digits. -/
def Scalar.display : Scalar → String
  | .null       => "null"
  | .bool true  => "true"
  | .bool false => "false"
  | .number x   => .ofList x.plain
  | .text s     => quoted s

mutual

/-- A tree on one line. -/
def Tree.display : Tree → String
  | .leaf s      => s.display
  | .list items  => "[" ++ ", ".intercalate (displayItems items) ++ "]"
  | .map entries => "\x7b" ++ ", ".intercalate (displayEntries entries) ++ "\x7d"

/-- The items of a list, each on one line. -/
def displayItems : List Tree → List String
  | []      => []
  | t :: ts => t.display :: displayItems ts

/-- The entries of a map, each on one line. -/
def displayEntries : List (String × Tree) → List String
  | []           => []
  | (k, t) :: es => (quoted k ++ ": " ++ t.display) :: displayEntries es

end

/-- A step: the key itself, or the index in decimal. -/
def Segment.display : Segment → String
  | .key name => name
  | .index i  => Number.text i

/-- A path: its steps with dots between them. -/
def Path.display (p : Path) : String :=
  if p.isEmpty then "<root>" else ".".intercalate (p.map Segment.display)

/-- A side of a difference. -/
def displaySide : Option Tree → String
  | some t => t.display
  | none   => "<absent>"

/-- A difference on one line: the path and both sides. -/
def Difference.display (d : Difference) : String :=
  d.path.display ++ ": " ++ displaySide d.before ++ " => " ++ displaySide d.after ++
    if d.ignored then " (ignored)" else ""

end ResourceMoves.Attribute
