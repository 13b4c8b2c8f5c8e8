import ResourceMoves.Json.Value

/-!
# Plans

A plan lists what is to be done to each resource instance, and the attributes before and after.
What a list of actions amounts to is its kind (`ActionKind.of?`); a list that no planner produces
has none.
-/

namespace ResourceMoves.Plan

/-- One action of a planner. -/
inductive Action
  | noOp
  | read
  | update
  | create
  | delete
  | forget
  | unrecognized
  deriving DecidableEq

/-- What is to be done to a resource instance.  A side without attributes is `none`, and `unknown`
marks the attributes that are known only afterwards. -/
structure Change where
  actions : List Action
  before  : Option Json.Value
  after   : Option Json.Value
  unknown : Option Json.Value

/-- The change of one resource instance. -/
structure Entry where
  address  : String
  mode     : Option String
  type     : String
  name     : Option String
  provider : String
  deposed  : Option String
  change   : Change

/-- The name of an action. -/
def Action.name : Action → String
  | .noOp         => "no-op"
  | .read         => "read"
  | .update       => "update"
  | .create       => "create"
  | .delete       => "delete"
  | .forget       => "forget"
  | .unrecognized => "unrecognized"

/-- The actions that have a name of their own. -/
def Action.known : List Action := [.noOp, .read, .update, .create, .delete, .forget]

/-- The action of a name; any other name is an unrecognized action. -/
def Action.ofName (name : String) : Action :=
  (known.find? fun a => a.name == name).getD .unrecognized

theorem Action.ofName_name (a : Action) : ofName a.name = a := by
  cases a <;> decide

/-- What a list of actions amounts to. -/
inductive ActionKind
  | create
  | delete
  | replace
  | other
  deriving DecidableEq

/-- The kind of a list of actions, if planners produce it. -/
def ActionKind.of? : List Action → Option ActionKind
  | [.create]          => some .create
  | [.delete]          => some .delete
  | [_]                => some .other
  | [.delete, .create] => some .replace
  | [.create, .delete] => some .replace
  | _                  => none

namespace Entry

/-- The kind of the entry's actions. -/
def kind? (e : Entry) : Option ActionKind := ActionKind.of? e.change.actions

/-- The entry is about a data source. -/
def isData (e : Entry) : Bool := e.mode == some "data"

/-- The entry is about an object that is left over from an earlier replacement. -/
def isDeposed (e : Entry) : Bool := e.deposed.isSome

end Entry

end ResourceMoves.Plan

namespace ResourceMoves

/-- The changes of all resource instances, in the planner's order. -/
structure Plan where
  formatVersion  : Option String
  plannerVersion : Option String
  entries        : List Plan.Entry

end ResourceMoves
