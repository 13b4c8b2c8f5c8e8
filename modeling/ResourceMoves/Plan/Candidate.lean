import ResourceMoves.Attribute.Json
import ResourceMoves.Plan.Basic

/-!
# Candidates

The resource instances of a plan that may be the two ends of a move: those that are only destroyed
and those that are only created.  An address at which one entry destroys and another creates is a
replacement and gives no candidate.  Every entry of the plan is checked first, in order, whether or
not it gives a candidate (`Entry.defect?`).
-/

namespace ResourceMoves.Plan

open ResourceMoves.Attribute (Tree)

/-- The end of a move that a candidate may be. -/
inductive Side
  | delete
  | create
  deriving DecidableEq

/-- The side in words. -/
def Side.name : Side → String
  | .delete => "delete"
  | .create => "create"

/-- A resource instance that is only destroyed, or only created.  The attributes are those that it
had or will have; `unknown` marks those that are not known yet. -/
structure Candidate where
  address    : String
  type       : String
  provider   : String
  side       : Side
  attributes : Tree
  unknown    : Option Tree

/-- How many nodes the attributes have. -/
def Candidate.size (c : Candidate) : Nat := c.attributes.size

/-- What is wrong with an entry. -/
inductive Defect
  | noAddress
  | noType
  | actions (names : List String)
  | createWithoutAfter
  | deleteWithoutBefore
  | deleteWithAfter
  | replaceWithoutBoth
  deriving DecidableEq

/-- The defect in words. -/
def Defect.message : Defect → String
  | .noAddress           => "missing address"
  | .noType              => "missing resource type"
  | .actions names       => "unsupported action set [" ++ ", ".intercalate names ++ "]"
  | .createWithoutAfter  => "create without an after value"
  | .deleteWithoutBefore => "delete without a before value"
  | .deleteWithAfter     => "delete with an after value"
  | .replaceWithoutBoth  => "replace without both before and after values"

/-- What is wrong with an entry, the first thing that is. -/
def Entry.defect? (e : Entry) : Option Defect :=
  if e.address.isEmpty then some .noAddress
  else if e.type.isEmpty then some .noType
  else match e.kind?, e.change.before, e.change.after with
    | none,          _,      _      => some (.actions (e.change.actions.map Action.name))
    | some .create,  _,      none   => some .createWithoutAfter
    | some .delete,  none,   _      => some .deleteWithoutBefore
    | some .delete,  some _, some _ => some .deleteWithAfter
    | some .replace, none,   _      => some .replaceWithoutBoth
    | some .replace, some _, none   => some .replaceWithoutBoth
    | _,             _,      _      => none

/-- The entry changes the current object at its address, and is of the kind. -/
def Entry.touches (kind : ActionKind) (e : Entry) : Bool :=
  !e.isDeposed && e.kind? == some kind

/-- The addresses at which a current object is changed in the given way. -/
def addressesOf (kind : ActionKind) (entries : List Entry) : List String :=
  (entries.filter (·.touches kind)).map (·.address)

/-- A mask that can hide something: a leaf other than `true` hides nothing. -/
def usefulMask? (mask : Option Json.Value) : Option Tree :=
  (mask.map Tree.ofJson).filter fun t => !t.isLeaf || t.isTrue

/-- The candidate for creation that an entry gives, when `deleted` are the addresses at which
something is destroyed. -/
def Entry.creation? (deleted : List String) (e : Entry) : Option Candidate :=
  if e.isData || !e.touches .create || deleted.contains e.address then none
  else e.change.after.map fun after =>
    { address := e.address, type := e.type, provider := e.provider, side := .create,
      attributes := .ofJson after, unknown := usefulMask? e.change.unknown }

/-- The candidate for deletion that an entry gives, when `created` are the addresses at which
something is created. -/
def Entry.deletion? (created : List String) (e : Entry) : Option Candidate :=
  if e.isData || !e.touches .delete || created.contains e.address then none
  else e.change.before.map fun before =>
    { address := e.address, type := e.type, provider := e.provider, side := .delete,
      attributes := .ofJson before, unknown := none }

/-- The candidates of a plan, each side in the plan's order. -/
structure Candidates where
  deletes : List Candidate
  creates : List Candidate

/-- The first defect of an entry, with the entry's address. -/
def defect? (p : Plan) : Option (String × Defect) :=
  p.entries.findSome? fun e => e.defect?.map (e.address, ·)

/-- The candidates of a plan whose entries have no defect. -/
def candidates (p : Plan) : Candidates where
  deletes := p.entries.filterMap (Entry.deletion? (addressesOf .create p.entries))
  creates := p.entries.filterMap (Entry.creation? (addressesOf .delete p.entries))

end ResourceMoves.Plan
