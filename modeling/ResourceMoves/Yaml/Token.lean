import ResourceMoves.Yaml.Scalar

/-!
# YAML tokens

The signs and scalars of a YAML text in their order.  The collections of a block are told by their
columns alone, so they get tokens where they open and where they close.  That a scalar is a key is
known only at the colon after it: its place is kept until then, and the colon puts the sign of a key
in front of it.  A key does not go beyond its line, and its colon stands within `keyReach` columns.
-/

namespace ResourceMoves.Yaml

/-- A sign or a scalar, or the begin or end of a collection that only the columns show. -/
inductive Token
  | documentBegin
  | documentEnd
  | sequenceBegin
  | mappingBegin
  | blockEnd
  | bracketOpen
  | bracketClose
  | braceOpen
  | braceClose
  | comma
  | dash
  | key
  | value
  | scalar (s : Scalar)
  deriving DecidableEq

/-- A place where a key may begin: its column, and how many tokens come before it.  Where a block
mapping goes on in its column, what stands there has to be a key. -/
structure KeyPlace where
  column   : Nat
  before   : Nat
  required : Bool

/-- How far after the begin of a key its colon may stand. -/
def keyReach : Nat := 1024

/-- The tokens so far and what decides on the next ones: the columns of the open block collections,
the innermost first; the place of the last possible key, and for each open bracket the one outside
of it; and whether a key may begin next. -/
structure Lexer where
  here       : Cursor
  tokens     : Array Token
  blocks     : List Nat
  keyPlace   : Option KeyPlace
  outer      : List (Option KeyPlace)
  keyAllowed : Bool

namespace Lexer

/-- The lexer at the begin of a text. -/
def start (s : List Char) : Lexer := ⟨⟨0, s⟩, #[], [], none, [], true⟩

/-- A bracket or a brace is open. -/
def inBrackets (l : Lexer) : Bool := !l.outer.isEmpty

/-- The least column of what belongs to the innermost block collection. -/
def indent (l : Lexer) : Nat :=
  match l.blocks with
  | []     => 0
  | c :: _ => c + 1

/-- The lexer with one more token. -/
def emit (l : Lexer) (t : Token) : Lexer := { l with tokens := l.tokens.push t }

/-- The lexer after a sign of `n` characters. -/
def sign (l : Lexer) (t : Token) (n : Nat) : Lexer :=
  { l.emit t with here := ⟨l.here.column + n, l.here.rest.drop n⟩ }

/-- The last possible key is none; it must not be a required one. -/
def dropKey? (l : Lexer) : Option Lexer :=
  if l.keyPlace.any (·.required) then none else some { l with keyPlace := none }

/-- No key goes beyond the end of a line. -/
def endLine? (l : Lexer) : Option Lexer :=
  if (l.keyPlace :: l.outer).any (·.any (·.required)) then none
  else some { l with keyPlace := none, outer := l.outer.map fun _ => none }

/-- What begins here may be a key, if a key is allowed. -/
def keepKey? (l : Lexer) : Option Lexer :=
  if l.keyAllowed then do
    let required := !l.inBrackets && l.blocks.head? == some l.here.column
    return { ← l.dropKey? with keyPlace := some ⟨l.here.column, l.tokens.size, required⟩ }
  else some l

/-- A block collection is open at a column: if none is, it begins after the first `before` tokens.
-/
def openBlock (l : Lexer) (column before : Nat) (t : Token) : Lexer :=
  if !l.inBrackets && l.blocks.head?.all (· < column) then
    { l with blocks := column :: l.blocks, tokens := l.tokens.insertIdxIfInBounds before t }
  else l

/-- All block collections end but the outer ones that remain. -/
def closeTo (l : Lexer) (remaining : List Nat) : Lexer :=
  let closed := l.blocks.length - remaining.length
  { l with blocks := remaining, tokens := l.tokens ++ Array.replicate closed .blockEnd }

/-- The block collections in columns after this one end. -/
def closeBlocks (l : Lexer) (column : Nat) : Lexer :=
  if l.inBrackets then l else l.closeTo (l.blocks.dropWhile (column < ·))

/-- All block collections end. -/
def closeAll (l : Lexer) : Lexer := if l.inBrackets then l else l.closeTo []

/-- The lexer at the begin of the next token. -/
def toToken? (l : Lexer) : Option Lexer := do
  let tabs := l.inBrackets || !l.keyAllowed
  let (here, crossed) := skip l.inBrackets tabs false false l.here.column l.here.rest
  let l ← if crossed then l.endLine? else some l
  let l := { l with here, keyAllowed := l.keyAllowed || (crossed && !l.inBrackets) }
  return l.closeBlocks here.column

/-- A marker of the begin or the end of a document. -/
def marker? (l : Lexer) (t : Token) : Option Lexer := do
  return { (← l.closeAll.dropKey?).sign t 3 with keyAllowed := false }

/-- An opening bracket or brace. -/
def openBracket? (l : Lexer) (t : Token) : Option Lexer := do
  let l ← l.keepKey?
  return { l.sign t 1 with outer := l.keyPlace :: l.outer, keyPlace := none, keyAllowed := true }

/-- A closing bracket or brace. -/
def closeBracket? (l : Lexer) (t : Token) : Option Lexer :=
  match l.outer with
  | []         => none
  | k :: outer => do
      return { (← l.dropKey?).sign t 1 with keyPlace := k, outer, keyAllowed := false }

/-- The comma between two entries. -/
def comma? (l : Lexer) : Option Lexer := do
  return { (← l.dropKey?).sign .comma 1 with keyAllowed := true }

/-- The dash before an entry of a block sequence. -/
def dash? (l : Lexer) : Option Lexer :=
  if l.inBrackets || !l.keyAllowed then none
  else do
    let l := l.openBlock l.here.column l.tokens.size .sequenceBegin
    return { (← l.dropKey?).sign .dash 1 with keyAllowed := true }

/-- The question mark before a key. -/
def questionMark? (l : Lexer) : Option Lexer :=
  if !l.inBrackets && !l.keyAllowed then none
  else do
    let l := l.openBlock l.here.column l.tokens.size .mappingBegin
    return { (← l.dropKey?).sign .key 1 with keyAllowed := !l.inBrackets }

/-- The colon before a value, whose key has a sign already or is not there. -/
def loneColon? (l : Lexer) : Option Lexer :=
  if !l.inBrackets && !l.keyAllowed then none
  else
    let l := l.openBlock l.here.column l.tokens.size .mappingBegin
    some { l.sign .value 1 with keyAllowed := !l.inBrackets }

/-- The colon before a value.  If there is a place where a key may have begun, one has. -/
def colon? (l : Lexer) : Option Lexer :=
  match l.keyPlace with
  | none   => l.loneColon?
  | some k =>
      if k.column + keyReach < l.here.column then l.dropKey?.bind loneColon?
      else
        let l := { l with tokens := l.tokens.insertIdxIfInBounds k.before .key }
        let l := l.openBlock k.column k.before .mappingBegin
        some { l.sign .value 1 with keyPlace := none, keyAllowed := false }

/-- A block scalar. -/
def block? (l : Lexer) (folded : Bool) : Option Lexer := do
  let l ← l.dropKey?
  let s ← Yaml.block? folded l.indent (l.here.rest.drop 1)
  return { l.emit (.scalar s.scalar) with here := s.stop, keyAllowed := true }

/-- A plain or a quoted scalar. -/
def inline? (l : Lexer) : Option Lexer := do
  let l ← l.keepKey?
  let s ← Yaml.inline? l.inBrackets l.indent l.here
  let l := { l.emit (.scalar s.scalar) with here := s.stop, keyAllowed := s.crossed }
  if s.multiline then l.endLine? else return l

/-- The lexer after the token that begins here. -/
def step? (l : Lexer) : Option Lexer :=
  let ownColumn := l.here.column == 0
  match l.here.rest with
  | [] => none
  | c :: r =>
      if ownColumn && c == '%' then none
      else if ownColumn && markerNext (c :: r) then
        l.marker? (if c == '-' then .documentBegin else .documentEnd)
      else match c with
        | '['    => l.openBracket? .bracketOpen
        | '\x7b' => l.openBracket? .braceOpen
        | ']'    => l.closeBracket? .bracketClose
        | '\x7d' => l.closeBracket? .braceClose
        | ','    => l.comma?
        | _ =>
            if c == '-' && gapNext r then l.dash?
            else if c == '?' && (l.inBrackets || gapNext r) then l.questionMark?
            else if c == ':' && (l.inBrackets || gapNext r) then l.colon?
            else if c == '|' && !l.inBrackets then l.block? false
            else if c == '>' && !l.inBrackets then l.block? true
            else l.inline?

/-- The tokens to the end of the text.  A step takes a character or more, so fuel beyond the length
of the text is enough. -/
def run? : (fuel : Nat) → Lexer → Option (List Token)
  | 0, _ => none
  | fuel + 1, l => do
      let l ← l.toToken?
      if l.here.rest.isEmpty then return (← l.closeAll.dropKey?).tokens.toList
      else run? fuel (← l.step?)

end Lexer

/-- The tokens of a text. -/
def tokens? (s : List Char) : Option (List Token) :=
  if !s.all isPermitted then none
  else
    let s := normalize s
    (Lexer.start s).run? (s.length + 1)

end ResourceMoves.Yaml
