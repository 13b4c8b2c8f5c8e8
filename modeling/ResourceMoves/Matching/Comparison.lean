import ResourceMoves.Ignore.Rule
import ResourceMoves.Attribute.Difference
import ResourceMoves.Plan.Candidate

/-!
# Comparisons

A candidate for deletion beside a candidate for creation: their differences and their score, the
number of differences that count.  Comparisons are ranked by score, then by size, then by address,
so that two comparisons of different candidates never have the same rank.
-/

namespace ResourceMoves.Matching

open ResourceMoves.Attribute (Difference)
open ResourceMoves.Plan (Candidate)

/-- What a comparison of two candidates finds. -/
structure Findings where
  differences : List Difference
  score       : Nat

/-- Two candidates and what their comparison found. -/
structure Comparison extends Findings where
  delete : Candidate
  create : Candidate

/-- A way to compare a candidate for deletion with a candidate for creation. -/
abbrev Judge := Candidate → Candidate → Findings

/-- The comparison of two candidates. -/
def Judge.compare (judge : Judge) (delete create : Candidate) : Comparison :=
  { judge delete create with delete, create }

/-- The differences found, scored by those that are not ignored. -/
def Findings.ofDifferences (differences : List Difference) : Findings where
  differences := differences
  score       := (differences.filter fun d => !d.ignored).length

/-- The differences of two candidates' attributes, those ignored that a rule covers for the type of
the created one. -/
def judgeBy (rules : List Ignore.Rule) : Judge := fun delete create =>
  .ofDifferences <| (delete.attributes.diff create.attributes create.unknown).map fun d =>
    { d with ignored := Ignore.ignores rules create.type d.path }

namespace Comparison

/-- How many nodes both candidates' attributes have. -/
def size (c : Comparison) : Nat := c.delete.size + c.create.size

/-- The differences that count. -/
def unresolved (c : Comparison) : List Difference := c.differences.filter fun d => !d.ignored

/-- Order by score, size, and the addresses of both candidates. -/
def rank : Comparison → Comparison → Ordering :=
  compareLex (compareOn (·.score)) <|
    compareLex (compareOn (·.size)) <|
      compareLex (compareOn (·.delete.address)) (compareOn (·.create.address))

/-- The comparisons in order of rank. -/
def ranked (cs : List Comparison) : List Comparison :=
  cs.mergeSort fun a b => (rank a b).isLE

/-- The comparisons have a candidate in common. -/
def clashes (a b : Comparison) : Bool :=
  a.delete.address == b.delete.address || a.create.address == b.create.address

end Comparison

end ResourceMoves.Matching
