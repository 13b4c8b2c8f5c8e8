/-!
# YAML text

The characters of a YAML text, and what is common to its scalars: line breaks, blanks, and the
folding of a gap between two words into the text.
-/

namespace ResourceMoves.Yaml

/-- A place in a text: the column, and what stands from there on. -/
structure Cursor where
  column : Nat
  rest   : List Char

/-- A line break.  Carriage returns and the next-line character are line feeds already. -/
def isBreak (c : Char) : Bool := c == '\n' || c == '\u2028' || c == '\u2029'

/-- A space or a tab. -/
def isBlank (c : Char) : Bool := c == ' ' || c == '\t'

/-- A blank or a line break comes next, or nothing. -/
def gapNext : List Char → Bool
  | []     => true
  | c :: _ => isBlank c || isBreak c

/-- The character may stand in a YAML text. -/
def isPermitted (c : Char) : Bool :=
  let n := c.toNat
  n == 0x09 || n == 0x0a || n == 0x0d || (0x20 ≤ n && n ≤ 0x7e) || n == 0x85 ||
    (0xa0 ≤ n && n ≤ 0xfffd) || 0x10000 ≤ n

/-- The text with a line feed for each carriage return, each pair of both, and each next-line
character. -/
def normalize : List Char → List Char
  | '\r' :: '\n' :: r => '\n' :: normalize r
  | '\r' :: r         => '\n' :: normalize r
  | '\u0085' :: r     => '\n' :: normalize r
  | c :: r            => c :: normalize r
  | []                => []

/-- The byte order mark.  Before all else in a line it is passed over, but takes a column. -/
def byteOrderMark : Char := '\ufeff'

/-- A marker of the begin or end of a document comes next; it stands in the first column. -/
def markerNext : List Char → Bool
  | '-' :: '-' :: '-' :: r => gapNext r
  | '.' :: '.' :: '.' :: r => gapNext r
  | _                      => false

/-- What stands between two words of a scalar: blanks, or line breaks.  The first break may be
escaped, which leaves nothing of it.  The lists are in reverse. -/
inductive Gap
  | blanks (cs : List Char)
  | breaks (first : Option Char) (more : List Char)

namespace Gap

/-- No gap. -/
def empty : Gap := .blanks []

/-- There is a gap. -/
def isSome : Gap → Bool
  | .blanks cs => !cs.isEmpty
  | .breaks .. => true

/-- The gap has a line break. -/
def isBroken : Gap → Bool
  | .blanks _  => false
  | .breaks .. => true

/-- The gap with one more blank.  Blanks after a break do not count. -/
def blank (c : Char) : Gap → Gap
  | .blanks cs => .blanks (c :: cs)
  | g          => g

/-- The gap with one more break.  Blanks before a break do not count. -/
def break_ (c : Char) : Gap → Gap
  | .blanks _     => .breaks (some c) []
  | .breaks f cs  => .breaks f (c :: cs)

/-- What the gap adds to the text: a single line feed becomes a space, and of several the first
counts for nothing. -/
def text : Gap → List Char
  | .blanks cs               => cs.reverse
  | .breaks (some '\n') []   => [' ']
  | .breaks (some '\n') more => more.reverse
  | .breaks first more       => first.toList ++ more.reverse

end Gap

/-- The place after blanks and comments, and whether a line was ended on the way.  Tabs count as
blanks only where `tabs` says so; in a new line they do so only inside brackets. -/
def skip (inBrackets tabs comment crossed : Bool) (column : Nat) : List Char → Cursor × Bool
  | [] => (⟨column, []⟩, crossed)
  | c :: r =>
      if isBreak c then skip inBrackets inBrackets false true 0 r
      else if comment then skip inBrackets tabs true crossed (column + 1) r
      else if c == ' ' || (c == '\t' && tabs) || (c == byteOrderMark && column == 0) then
        skip inBrackets tabs false crossed (column + 1) r
      else if c == '#' then skip inBrackets tabs true crossed (column + 1) r
      else (⟨column, c :: r⟩, crossed)

end ResourceMoves.Yaml
