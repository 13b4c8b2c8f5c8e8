import ResourceMoves.Number.Digits
import ResourceMoves.Text.Alphanumeric
import ResourceMoves.Text.Blank

/-!
# Environments

The variables that a run sees, and files that add to them.  Such a file has assignments on lines,
comments, and values that may be quoted, go over several lines, and use variables.  A variable that
is there already keeps its value (`Environment.load`).
-/

namespace ResourceMoves

/-- Variables and their values; the first value of a name counts. -/
abbrev Environment := List (String × String)

namespace Environment

/-- The value of a variable. -/
def get? (env : Environment) (name : String) : Option String := env.lookup name

/-- The environment with a variable that it has not yet. -/
def provide (env : Environment) (name value : String) : Environment :=
  if (env.get? name).isSome then env else env ++ [(name, value)]

/-- Where a scan for the end of an assignment stands. -/
inductive Scan
  | complete
  | blank
  | escape
  | single
  | singleEscape
  | double
  | doubleEscape
  deriving DecidableEq

/-- The scan after a character; `none` is the begin of a comment. -/
def Scan.next (c : Char) : Scan → Option Scan
  | .complete     =>
      if Text.isBlank c && c != '\n' && c != '\r' then some .blank else some (quoteOr c)
  | .blank        => if c = '#' then none else some (quoteOr c)
  | .escape       => some .complete
  | .single       =>
      some (if c = '\\' then .singleEscape else if c = '\'' then .complete else .single)
  | .singleEscape => some .single
  | .double       =>
      some (if c = '\\' then .doubleEscape else if c = '"' then .complete else .double)
  | .doubleEscape => some .double
where
  /-- The scan after a character outside quotes. -/
  quoteOr (c : Char) : Scan :=
    if c = '\\' then .escape else if c = '"' then .double else if c = '\'' then .single
    else .complete

/-- The scan after a line; or, when a comment begins, what stands before it. -/
def scanLine (s : Scan) (before : List Char) : List Char → Scan ⊕ List Char
  | []     => .inl s
  | c :: r => match s.next c with
      | some s => scanLine s (c :: before) r
      | none   => .inr before.reverse

/-- A text as lines, each with the line feed that ends it. -/
def fullLines : List Char → List (List Char)
  | []        => []
  | '\n' :: r => ['\n'] :: fullLines r
  | c :: r    => match fullLines r with
      | []      => [[c]]
      | l :: ls => (c :: l) :: ls

/-- A line without the line feed, and the carriage return before it. -/
def chomp (l : List Char) : List Char :=
  match l.reverse with
  | '\n' :: '\r' :: r => r.reverse
  | '\n' :: r         => r.reverse
  | _                 => l

/-- The assignments of a file, each in one line or in several when a quote is open at the end of a
line.  `none` is an assignment that the file does not end. -/
def assignments (before : List Char) (s : Scan) : List (List Char) → List (Option (List Char))
  | [] => if s = .complete then [] else [none]
  | l :: ls =>
      let whole := before ++ l
      if (Text.dropBlanks whole).head? = some '#' then some [] :: assignments [] .complete ls
      else match scanLine s [] l with
        | .inr cut       => some (before ++ cut) :: assignments [] .complete ls
        | .inl .complete => some (chomp whole) :: assignments [] .complete ls
        | .inl s         => assignments whole s ls

/-- A letter, a digit or an underscore of ASCII, or a dot. -/
def isNameChar (c : Char) : Bool := c.isAlphanum || c == '_' || c == '.'

/-- The name of a variable, and what follows it. -/
def takeName? (s : List Char) : Option (String × List Char) :=
  match s with
  | [] => none
  | c :: _ =>
      if c.isAlpha || c == '_' then
        some (.ofList (s.takeWhile isNameChar), s.dropWhile isNameChar)
      else none

/-- Where the reading of a value stands. -/
structure ValueState where
  out          : List Char := []
  single       : Bool := false
  double       : Bool := false
  escaped      : Bool := false
  ended        : Bool := false
  substitution : Option (Bool × List Char) := none

/-- The state with the value of a variable, whose name is given in reverse, added to the text. -/
def ValueState.substitute (lookup : String → String) (name : List Char) (s : ValueState) :
    ValueState :=
  { s with out := (lookup (.ofList name.reverse)).toList.reverse ++ s.out, substitution := none }

/-- The state after a character; `none` is an error, and a comment is the end.  A name after a
dollar sign ends at the first character that is no letter or number, or, in braces, at the closing
one. -/
def ValueState.next (lookup : String → String) (c : Char) (s : ValueState) :
    Option (ValueState ⊕ ValueState) :=
  let go (s : ValueState) : Option (ValueState ⊕ ValueState) := some (.inl s)
  let push (s : ValueState) : ValueState := { s with out := c :: s.out }
  if s.ended then
    if c = ' ' ∨ c = '\t' then go s else if c = '#' then some (.inr s) else none
  else if s.escaped then
    let s := { s with escaped := false }
    if "\\'\"$ ".toList.contains c then go (push s)
    else if c = 'n' then go { s with out := '\n' :: s.out }
    else none
  else if s.single then go (if c = '\'' then { s with single := false } else push s)
  else match s.substitution with
    | some (braced, name) =>
        if Text.isAlphanumeric c then go { s with substitution := some (braced, c :: name) }
        else if braced then
          if c = '\x7d' then go (s.substitute lookup name)
          else go { s with substitution := some (true, c :: name) }
        else if c = '\x7b' ∧ name.isEmpty then go { s with substitution := some (true, []) }
        else
          let s := s.substitute lookup name
          go (if c = '$' then { s with substitution := some (false, []) } else push s)
    | none =>
        if c = '$' then go { s with substitution := some (false, []) }
        else if s.double then
          if c = '"' then go { s with double := false }
          else if c = '\\' then go { s with escaped := true }
          else go (push s)
        else if c = '\'' then go { s with single := true }
        else if c = '"' then go { s with double := true }
        else if c = '\\' then go { s with escaped := true }
        else if c = ' ' ∨ c = '\t' then go { s with ended := true }
        else go (push s)

/-- The state at the end of a value. -/
def valueEnd? (lookup : String → String) (s : ValueState) : List Char → Option ValueState
  | []     => some s
  | c :: r => match s.next lookup c with
      | none          => none
      | some (.inl s) => valueEnd? lookup s r
      | some (.inr s) => some s

/-- The value that a text spells. -/
def value? (lookup : String → String) (s : List Char) : Option String := do
  let e ← valueEnd? lookup {} s
  match e.substitution with
  | some (true, _) => none
  | other =>
      if e.single || e.double then none
      else
        let e := match other with
          | some (_, name) => e.substitute lookup name
          | none           => e
        return .ofList e.out.reverse

/-- The text after an equals sign, if one comes next. -/
def afterEquals? : List Char → Option (List Char)
  | '=' :: r => some r
  | _        => none

/-- The name of an assignment and the text of its value.  The word `export` may stand before the
name, and may be a name. -/
def split? (s : List Char) : Option (String × List Char) := do
  let (name, r) ← takeName? s
  match afterEquals? (Text.dropBlanks r) with
  | some value => return (name, value)
  | none =>
      if name = "export" then
        let (name, r) ← takeName? (Text.dropBlanks r)
        return (name, ← afterEquals? (Text.dropBlanks r))
      else none

/-- The variable that an assignment sets, if it is one; an empty line or a comment sets none. -/
def assignment? (lookup : String → String) (line : List Char) :
    Option (Option (String × String)) := do
  let s := Text.trim line
  if s.isEmpty || s.head? = some '#' then return none
  else
    let (name, r) ← split? s
    let r := Text.dropBlanks r
    if r.isEmpty || r.head? = some '#' then return some (name, "")
    else return some (name, ← value? lookup r)

/-- The environment after assignments, of which `earlier` were made by the same file, and whether
all of them could be read. -/
def assign (env : Environment) (earlier : List (String × String)) :
    List (Option (List Char)) → Environment × Bool
  | [] => (env, true)
  | none :: _ => (env, false)
  | some line :: rest =>
      let lookup (name : String) : String :=
        (env.get? name).getD ((earlier.lookup name).getD "")
      match assignment? lookup line with
      | none                     => (env, false)
      | some none                => assign env earlier rest
      | some (some (name, text)) => assign (env.provide name text) ((name, text) :: earlier) rest

/-- The text without a byte order mark in front. -/
def dropMark : List Char → List Char
  | '\ufeff' :: r => r
  | s             => s

/-- The environment with the variables that the text of a file sets, up to the first that cannot be
read, and whether there was none such. -/
def load (env : Environment) (content : String) : Environment × Bool :=
  env.assign [] (assignments [] .complete (fullLines (dropMark content.toList)))

/-- The longest runs of characters of a kind. -/
def runs (kind : Char → Bool) (s : List Char) : List String :=
  ((s.splitOnP (!kind ·)).filter (!·.isEmpty)).map String.ofList

/-- The names of variables that the text of a file may use or set. -/
def mentioned (content : String) : List String :=
  runs isNameChar content.toList ++ runs Text.isAlphanumeric content.toList

/-- The directory of the user's own configurations. -/
def configDirectory? (env : Environment) : Option String :=
  match env.get? "XDG_CONFIG_HOME" with
  | some d => if d.toList.head? = some '/' then some d else underHome
  | none   => underHome
where
  /-- The directory of configurations in the user's home. -/
  underHome : Option String := do
    let home ← env.get? "HOME"
    if home.isEmpty then none else return home ++ "/.config"

end Environment

end ResourceMoves
