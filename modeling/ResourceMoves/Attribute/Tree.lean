import ResourceMoves.Keyed
import ResourceMoves.Number.Literal
import ResourceMoves.Text.Blank

/-!
# Attribute trees

The attributes of a resource: scalars, lists, and maps from names to further trees, with the paths
that lead from the root to a node.  Scalars agree up to the way a number is written
(`Scalar.agrees`): a text agrees with the number that it spells.
-/

namespace ResourceMoves.Attribute

open ResourceMoves.Number (Binary64)

/-- A leaf of an attribute tree. -/
inductive Scalar
  | null
  | bool (b : Bool)
  | number (x : Binary64)
  | text (s : String)
  deriving DecidableEq

/-- An attribute tree.  The entries of a map that was read are in key order. -/
inductive Tree
  | leaf (s : Scalar)
  | list (items : List Tree)
  | map (entries : List (String × Tree))

instance : Inhabited Tree := ⟨.leaf .null⟩

/-- One step down a tree. -/
inductive Segment
  | key (name : String)
  | index (i : Nat)
  deriving DecidableEq

/-- The steps from the root of a tree to a node. -/
abbrev Path := List Segment

namespace Scalar

/-- Equality of scalars of one kind; numbers are compared as doubles. -/
def same : Scalar → Scalar → Bool
  | .null,     .null     => true
  | .bool a,   .bool b   => a == b
  | .number x, .number y => x.agrees y
  | .text s,   .text t   => s == t
  | _,         _         => false

/-- The text spells the number. -/
def spells (s : String) (x : Binary64) : Bool :=
  (Binary64.ofText? s.toList).any (·.agrees x)

/-- Equality of scalars when a number and a text that spells it count as equal. -/
def agrees : Scalar → Scalar → Bool
  | .number x, .text s   => spells s x
  | .text s,   .number x => spells s x
  | a,         b         => a.same b

theorem same_comm (a b : Scalar) : a.same b = b.same a := by
  cases a <;> cases b <;> simp only [same]
  · exact Bool.beq_comm
  · exact Binary64.agrees_comm _ _
  · exact Bool.beq_comm

theorem agrees_comm (a b : Scalar) : a.agrees b = b.agrees a := by
  cases a <;> cases b <;> simp only [agrees] <;> exact same_comm _ _

end Scalar

namespace Tree

/-- The null leaf. -/
def null : Tree := .leaf .null

mutual

/-- How many nodes a tree has, the root among them. -/
def size : Tree → Nat
  | .leaf _      => 1
  | .list items  => 1 + sizeItems items
  | .map entries => 1 + sizeEntries entries

/-- How many nodes the items of a list have. -/
def sizeItems : List Tree → Nat
  | []      => 0
  | t :: ts => t.size + sizeItems ts

/-- How many nodes the entries of a map have. -/
def sizeEntries : List (String × Tree) → Nat
  | []           => 0
  | (_, t) :: es => t.size + sizeEntries es

end

/-- The node one step below the root. -/
def child? : Tree → Segment → Option Tree
  | .map entries, .key name => Keyed.find? name entries
  | .list items,  .index i  => items[i]?
  | _,            _         => none

/-- The node at the end of a path. -/
def lookup? (t : Tree) : Path → Option Tree
  | []     => some t
  | s :: p => (t.child? s).bind (lookup? · p)

/-- The leaf `true`. -/
def isTrue : Tree → Bool
  | .leaf (.bool true) => true
  | _                  => false

/-- A leaf. -/
def isLeaf : Tree → Bool
  | .leaf _ => true
  | _       => false

theorem one_le_size (t : Tree) : 1 ≤ t.size := by
  cases t <;> simp [size]

theorem size_le_sizeItems {t : Tree} {ts : List Tree} (h : t ∈ ts) : t.size ≤ sizeItems ts := by
  induction ts with
  | nil => simp at h
  | cons u us ih =>
      rcases List.mem_cons.1 h with rfl | h
      · simp [sizeItems]
      · have := ih h; simp only [sizeItems]; omega

theorem size_le_sizeEntries {k : String} {t : Tree} {es : List (String × Tree)}
    (h : (k, t) ∈ es) : t.size ≤ sizeEntries es := by
  induction es with
  | nil => simp at h
  | cons e es ih =>
      rcases List.mem_cons.1 h with rfl | h
      · simp [sizeEntries]
      · have := ih h; simp only [sizeEntries]; omega

/-- A child is smaller than its parent. -/
theorem size_lt_of_child? {t c : Tree} {s : Segment} (h : t.child? s = some c) :
    c.size < t.size := by
  cases t <;> cases s <;> simp only [child?, reduceCtorEq] at h
  · have := size_le_sizeItems (List.mem_of_getElem? h); simp only [size]; omega
  · have := size_le_sizeEntries (Keyed.mem_of_find? h); simp only [size]; omega

end Tree

end ResourceMoves.Attribute
