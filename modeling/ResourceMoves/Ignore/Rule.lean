import ResourceMoves.Attribute.Tree
import ResourceMoves.Number.Digits
import ResourceMoves.Text.Quoted

/-!
# Ignore rules

A rule names differences that do not count: those of one resource type, or of all, at the paths that
a pattern covers.  It is written as parts with dots between them.  The first part is a type or `*`;
each further part is a key or index, `*` for any one step, or, as the last part only, `**` for all
that follows.  A rule without further parts covers everything.
-/

namespace ResourceMoves.Ignore

open ResourceMoves.Attribute (Segment Path)

/-- The resource types that a rule is for. -/
inductive Selector
  | any
  | exact (type : String)
  deriving DecidableEq

/-- One part of a pattern. -/
inductive Step
  | any
  | literal (text : String)
  | rest
  deriving DecidableEq

/-- An ignore rule and the text it was read from. -/
structure Rule where
  text     : String
  selector : Selector
  pattern  : List Step
  deriving DecidableEq

/-- What is wrong with the text of a rule. -/
inductive Defect
  | empty
  | emptySelector
  | mixedSelector
  | emptyStep
  | earlyRest
  | mixedStep (part : String)
  deriving DecidableEq

/-- The defect in words. -/
def Defect.message : Defect → String
  | .empty          => "rule is empty"
  | .emptySelector  => "empty type selector"
  | .mixedSelector  => "type selector must be a name or '*'"
  | .emptyStep      => "empty path segment"
  | .earlyRest      => "'**' may only appear as the last segment"
  | .mixedStep part => "segment " ++ Text.quoted part ++ " mixes '*' with other characters"

/-- The types that the first part of a rule selects. -/
def selector? (part : List Char) : Except Defect Selector :=
  if part.isEmpty then .error .emptySelector
  else if part = ['*'] then .ok .any
  else if part.contains '*' then .error .mixedSelector
  else .ok (.exact (.ofList part))

/-- A further part of a rule; `last` says that no part follows it. -/
def step? (part : List Char) (last : Bool) : Except Defect Step :=
  if part.isEmpty then .error .emptyStep
  else if part = ['*'] then .ok .any
  else if part = ['*', '*'] then if last then .ok .rest else .error .earlyRest
  else if part.contains '*' then .error (.mixedStep (.ofList part))
  else .ok (.literal (.ofList part))

/-- The further parts of a rule. -/
def steps? : List (List Char) → Except Defect (List Step)
  | []            => .ok []
  | part :: parts => do
      let step ← step? part parts.isEmpty
      let rest ← steps? parts
      return step :: rest

/-- The parts of a text between its dots. -/
def parts (s : List Char) : List (List Char) := s.splitOn '.'

namespace Rule

/-- The rule that a text without white space around it spells. -/
def ofTrimmed? (s : List Char) : Except Defect Rule :=
  if s.isEmpty then .error .empty
  else match parts s with
    | [] => .error .empty
    | first :: further => do
        let selector ← selector? first
        let steps ← steps? further
        return ⟨.ofList s, selector, if steps.isEmpty then [.rest] else steps⟩

/-- The rule that a text spells, white space around it aside. -/
def ofText? (s : String) : Except Defect Rule := ofTrimmed? (Text.trim s.toList)

/-- The rule covers every difference of every type. -/
def coversAll (r : Rule) : Bool := r.selector == .any && r.pattern == [.rest]

/-- A word of caution about a rule that covers everything. -/
def caution? (r : Rule) : Option String :=
  if r.coversAll then
    some ("Ignore rule " ++ Text.quoted r.text ++
      " ignores every attribute, so every same-type pair scores 0")
  else none

end Rule

/-- The text names the step: as its key, or as the number of its index. -/
def names (text : String) : Segment → Bool
  | .key name => name == text
  | .index i  => Number.word? text.toList == some i

/-- The pattern covers the path. -/
def covers : List Step → Path → Bool
  | [],             []      => true
  | .rest :: _,     _       => true
  | .any :: ps,     _ :: q  => covers ps q
  | .literal t :: ps, s :: q => names t s && covers ps q
  | _,              _       => false

/-- The selector is for the type. -/
def Selector.selects : Selector → String → Bool
  | .any,     _ => true
  | .exact t, u => t == u

/-- The rule covers a difference at the path, for a resource of the type. -/
def Rule.matches (r : Rule) (type : String) (path : Path) : Bool :=
  r.selector.selects type && covers r.pattern path

/-- The text of a rule with the given selector and pattern. -/
def render (selector : Selector) (pattern : List Step) : String :=
  let first := match selector with
    | .any     => "*"
    | .exact t => t
  let further := pattern.map fun
    | .any       => "*"
    | .literal t => t
    | .rest      => "**"
  ".".intercalate (first :: further)

/-- Some rule of the list covers the path. -/
def ignores (rules : List Rule) (type : String) (path : Path) : Bool :=
  rules.any (·.matches type path)

/-- The rules that cover none of the given places, in order. -/
def unused (rules : List Rule) (places : List (String × Path)) : List Rule :=
  rules.filter fun r => !places.any fun p => r.matches p.1 p.2

end ResourceMoves.Ignore
