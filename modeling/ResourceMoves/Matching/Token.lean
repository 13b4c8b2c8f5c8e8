import ResourceMoves.Matching.Solve

/-!
# Cancel tokens

Tokens that tell running work to stop.  A clone of a token shares its flag, so cancelling one token
cancels its whole family, the clones made later too; other families are not touched.
-/

namespace ResourceMoves.Matching

/-- Tokens in the order in which they were made, each with the number of its flag, and the flags
that are set. -/
structure Tokens where
  flags : List Nat
  set   : List Nat
  fresh : Nat

/-- What may be done with tokens, each named by its place. -/
inductive TokenOp
  | new
  | clone (i : Nat)
  | cancel (i : Nat)
  deriving DecidableEq

namespace Tokens

/-- One token that is not cancelled. -/
def single : Tokens := ⟨[0], [], 1⟩

/-- The token is cancelled. -/
def isCancelled (t : Tokens) (i : Nat) : Bool :=
  match t.flags[i]? with
  | some flag => t.set.contains flag
  | none      => false

/-- Stops if the token is cancelled. -/
def check (t : Tokens) (i : Nat) : Except Refusal Unit :=
  if t.isCancelled i then .error .cancelled else .ok ()

/-- The tokens after an operation.  One on a token that there is not does nothing. -/
def apply (t : Tokens) : TokenOp → Tokens
  | .new      => { t with flags := t.flags ++ [t.fresh], fresh := t.fresh + 1 }
  | .clone i  => match t.flags[i]? with
      | some flag => { t with flags := t.flags ++ [flag] }
      | none      => t
  | .cancel i => match t.flags[i]? with
      | some flag => { t with set := flag :: t.set }
      | none      => t

/-- Which tokens are cancelled, in order. -/
def states (t : Tokens) : List Bool := (List.range t.flags.length).map t.isCancelled

end Tokens

end ResourceMoves.Matching
