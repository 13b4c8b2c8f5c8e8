import ResourceMoves.Attribute.Tree

/-!
# Differences of attribute trees

Where two trees disagree.  Two maps are compared key by key and two lists index by index; any other
two nodes disagree as a whole, unless they are scalars that agree.  A mask names the values that are
not known yet: at and below a node that it marks `true` nothing is compared.
-/

namespace ResourceMoves.Attribute

/-- A disagreement of two trees at a path.  A side that has no node there is `none`. -/
structure Difference where
  path    : Path
  before  : Option Tree
  after   : Option Tree
  ignored : Bool := false

/-- The same difference, seen from the parent of the tree. -/
def Difference.under (s : Segment) (d : Difference) : Difference := { d with path := s :: d.path }

namespace Tree

/-- The steps down two trees that are compared child by child: the keys of two maps in order, or the
indices of the longer of two lists. -/
def branches? : Tree → Tree → Option (List Segment)
  | .map a,  .map b  => some ((Keyed.unionKeys a b).map .key)
  | .list a, .list b => some ((List.range (max a.length b.length)).map .index)
  | _,       _       => none

/-- Two scalars that agree. -/
def agree : Tree → Tree → Bool
  | .leaf a, .leaf b => a.agrees b
  | _,       _       => false

/-- The mask hides the node and all below it. -/
def hides : Option Tree → Bool
  | some mask => mask.isTrue
  | none      => false

/-- How many nodes there are, none without a tree. -/
def sizeOf? : Option Tree → Nat
  | some t => t.size
  | none   => 0

theorem sizeOf?_child?_lt (t : Tree) (s : Segment) : sizeOf? (t.child? s) < t.size := by
  match h : t.child? s with
  | some c => exact size_lt_of_child? h
  | none   => exact one_le_size t

/-- The differences between what two trees have at one place, in path order. -/
def differences (before after mask : Option Tree) : List Difference :=
  if hides mask then []
  else match before, after with
    | none, none => []
    | some b, some a =>
        match branches? b a with
        | some segments => segments.flatMap fun s =>
            (differences (b.child? s) (a.child? s) (mask.bind (·.child? s))).map (·.under s)
        | none => if agree b a then [] else [{ path := [], before := some b, after := some a }]
    | b, a => [{ path := [], before := b, after := a }]
termination_by sizeOf? before
decreasing_by exact sizeOf?_child?_lt _ _

/-- The differences between two trees where the mask does not hide them. -/
def diff (before after : Tree) (mask : Option Tree) : List Difference :=
  differences (some before) (some after) mask

end Tree

end ResourceMoves.Attribute
