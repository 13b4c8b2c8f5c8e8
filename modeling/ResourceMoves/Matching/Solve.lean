import ResourceMoves.Matching.Comparison

/-!
# Matching candidates

Every candidate for deletion is compared with every candidate for creation of its type.  The
comparisons are taken in order of rank, and each is a match unless one of its candidates is matched
already.  Between the steps of this work the watch is asked whether to stop (`Checkpoint`).
-/

namespace ResourceMoves.Matching

open ResourceMoves.Plan (Candidate Side)

/-- The moments at which the work may be stopped: before anything, before matching, before the
`i`-th pair is compared, and before the `i`-th comparison is taken, when all of the `pairs` have
been compared; both are counted from zero. -/
inductive Checkpoint
  | start
  | entry
  | pair (i : Nat)
  | step (pairs i : Nat)
  deriving DecidableEq

/-- How many pairs have been compared by a moment. -/
def Checkpoint.compared : Checkpoint → Nat
  | .start        => 0
  | .entry        => 0
  | .pair i       => i
  | .step pairs _ => pairs

/-- At which moments the work is asked to stop. -/
abbrev Watch := Checkpoint → Bool

/-- The watch that never stops the work. -/
def Watch.never : Watch := fun _ => false

/-- The watch that stops the work at once. -/
def Watch.always : Watch := fun _ => true

/-- The watch that stops the work after `n` pairs have been compared, or before it begins. -/
def Watch.afterPairs (n : Nat) : Watch := fun c => n ≤ c.compared

/-- Why candidates are not matched. -/
inductive Refusal
  | duplicate (side : Side) (address : String)
  | cancelled
  deriving DecidableEq

/-- The first text of a list that repeats an earlier one, when `seen` are earlier still. -/
def firstRepeat? (seen : List String) : List String → Option String
  | []      => none
  | s :: ss => if seen.contains s then some s else firstRepeat? (s :: seen) ss

/-- The addresses of one side are unique. -/
def checkUnique (side : Side) (candidates : List Candidate) : Except Refusal Unit :=
  match firstRepeat? [] (candidates.map (·.address)) with
  | some address => .error (.duplicate side address)
  | none         => .ok ()

/-- Stops if the watch says so. -/
def checkpoint (watch : Watch) (c : Checkpoint) : Except Refusal Unit :=
  if watch c then .error .cancelled else .ok ()

/-- The pairs of one type, in the order of the deletes and for each of the creates. -/
def pairs (deletes creates : List Candidate) : List (Candidate × Candidate) :=
  deletes.flatMap fun d => (creates.filter fun c => c.type == d.type).map (d, ·)

/-- The comparisons of pairs, the first of which is the `i`-th. -/
def compareAll (watch : Watch) (judge : Judge) (i : Nat) :
    List (Candidate × Candidate) → Except Refusal (List Comparison)
  | []             => .ok []
  | (d, c) :: rest => do
      checkpoint watch (.pair i)
      let others ← compareAll watch judge (i + 1) rest
      return judge.compare d c :: others

/-- The comparisons that become matches when `committed` are matches already; the first comparison
is the `i`-th of all `pairs`. -/
def commit (watch : Watch) (pairs i : Nat) (committed : List Comparison) :
    List Comparison → Except Refusal (List Comparison)
  | []        => .ok []
  | c :: rest => do
      checkpoint watch (.step pairs i)
      if committed.any c.clashes then commit watch pairs (i + 1) committed rest
      else
        let others ← commit watch pairs (i + 1) (c :: committed) rest
        return c :: others

end ResourceMoves.Matching

namespace ResourceMoves

open ResourceMoves.Plan (Candidate Side)

/-- The result of matching: the matches in the order in which they were found, the candidates
without a match in their given order, and every comparison in the order of its pair. -/
structure Matching where
  found            : List Matching.Comparison
  unmatchedDeletes : List Candidate
  unmatchedCreates : List Candidate
  comparisons      : List Matching.Comparison

namespace Matching

/-- Matches candidates for deletion with candidates for creation. -/
def solve (watch : Watch) (judge : Judge) (deletes creates : List Candidate) :
    Except Refusal Matching := do
  checkUnique .delete deletes
  checkUnique .create creates
  checkpoint watch .entry
  let comparisons ← compareAll watch judge 0 (pairs deletes creates)
  let found ← commit watch comparisons.length 0 [] (Comparison.ranked comparisons)
  return {
    found, comparisons
    unmatchedDeletes := deletes.filter fun d => !found.any (·.delete.address == d.address)
    unmatchedCreates := creates.filter fun c => !found.any (·.create.address == c.address) }

/-- There is neither a match nor a candidate without one. -/
def isEmpty (m : Matching) : Bool :=
  m.found.isEmpty && m.unmatchedDeletes.isEmpty && m.unmatchedCreates.isEmpty

/-- The comparisons of one created resource, in order of rank. -/
def comparisonsOf (m : Matching) (address : String) : List Comparison :=
  Comparison.ranked (m.comparisons.filter fun c => c.create.address == address)

/-- The created resources that were compared, in order of their first comparison. -/
def comparedCreates (m : Matching) : List String :=
  (m.comparisons.map (·.create.address)).eraseDups

/-- The comparison is one of the matches. -/
def isMatch (m : Matching) (c : Comparison) : Bool :=
  m.found.any fun f =>
    f.delete.address == c.delete.address && f.create.address == c.create.address

/-- The rules that ignored no difference. -/
def unusedRules (rules : List Ignore.Rule) (m : Matching) : List Ignore.Rule :=
  Ignore.unused rules <| m.comparisons.flatMap fun c =>
    (c.differences.filter (·.ignored)).map fun d => (c.create.type, d.path)

end Matching

end ResourceMoves
