import ResourceMoves.Yaml.Text

/-!
# YAML scalars

Plain, quoted and block scalars.  Each reader takes the place after the sign that begins the scalar
(a plain one has none) and gives the text with the place after it.
-/

namespace ResourceMoves.Yaml

/-- A scalar.  Only a plain one can be anything but a text. -/
structure Scalar where
  text    : String
  isPlain : Bool
  deriving DecidableEq

/-- The empty plain scalar, which stands where nothing does. -/
def Scalar.nothing : Scalar := ⟨"", true⟩

/-- A scalar that was read: where it ends, whether a line ended after it, and whether it, with the
blanks after it, goes over more than one line. -/
structure Scanned where
  scalar    : Scalar
  stop      : Cursor
  crossed   : Bool
  multiline : Bool

/-- A sign with a meaning of its own inside brackets. -/
def isBracketSign (c : Char) : Bool := ",[]\x7b\x7d".toList.contains c

/-- A plain scalar can begin here. -/
def plainNext (inBrackets : Bool) : List Char → Bool
  | [] => false
  | '-' :: r => match r with
      | []     => false
      | c :: _ => !isBlank c && !isBreak c
  | '?' :: r => !inBrackets && !gapNext r
  | ':' :: r => !inBrackets && !gapNext r
  | c :: _ => !isBlank c && !isBreak c && !",[]\x7b\x7d#&*!|>'\"%@\x60".toList.contains c

/-- A plain scalar, of which `acc` is read already, in reverse.  It ends before a colon with a gap
after it, before a comment, before a line that is indented less than `indent`, and inside brackets
before their signs. -/
def plainFrom (inBrackets : Bool) (indent : Nat) (acc : List Char) (gap : Gap) (multiline : Bool)
    (column : Nat) : List Char → Option Scanned
  | [] => some ⟨⟨.ofList acc.reverse, true⟩, ⟨column, []⟩, gap.isBroken, multiline⟩
  | c :: r =>
      let done : Scanned :=
        ⟨⟨.ofList acc.reverse, true⟩, ⟨column, c :: r⟩, gap.isBroken, multiline⟩
      if isBreak c then plainFrom inBrackets indent acc (gap.break_ c) true 0 r
      else if isBlank c then
        if gap.isBroken && c == '\t' && column < indent then none
        else plainFrom inBrackets indent acc (gap.blank c) multiline (column + 1) r
      else if gap.isBroken && !inBrackets && column < indent then some done
      else if gap.isSome && c == '#' then some done
      else if column == 0 && markerNext (c :: r) then some done
      else if c == ':' && gapNext r then some done
      else if inBrackets && c == ':' && r.head?.any (fun d => isBracketSign d || d == '?') then none
      else if inBrackets && isBracketSign c then some done
      else
        plainFrom inBrackets indent (c :: (gap.text.reverse ++ acc)) .empty multiline (column + 1) r

/-- A scalar in single quotes, of which `acc` is read already, in reverse.  A quote in it is written
twice. -/
def singleFrom (acc : List Char) (gap : Gap) (multiline : Bool) (column : Nat) :
    List Char → Option Scanned
  | [] => none
  | '\'' :: '\'' :: r =>
      singleFrom ('\'' :: (gap.text.reverse ++ acc)) .empty multiline (column + 2) r
  | '\'' :: r =>
      some ⟨⟨.ofList (acc.reverse ++ gap.text), false⟩, ⟨column + 1, r⟩, false, multiline⟩
  | c :: r =>
      if isBreak c then singleFrom acc (gap.break_ c) true 0 r
      else if isBlank c then singleFrom acc (gap.blank c) multiline (column + 1) r
      else if column == 0 && markerNext (c :: r) then none
      else singleFrom (c :: (gap.text.reverse ++ acc)) .empty multiline (column + 1) r

/-- The character that a one-letter escape stands for. -/
def shortEscape? : Char → Option Char
  | '0'  => some '\x00'
  | 'a'  => some '\x07'
  | 'b'  => some '\x08'
  | 't'  => some '\t'
  | '\t' => some '\t'
  | 'n'  => some '\n'
  | 'v'  => some '\x0b'
  | 'f'  => some '\x0c'
  | 'r'  => some '\r'
  | 'e'  => some '\x1b'
  | ' '  => some ' '
  | '"'  => some '"'
  | '/'  => some '/'
  | '\\' => some '\\'
  | 'N'  => some '\u0085'
  | '_'  => some '\u00a0'
  | 'L'  => some '\u2028'
  | 'P'  => some '\u2029'
  | _    => none

/-- How many hexadecimal digits an escape has. -/
def escapeLength? : Char → Option Nat
  | 'x' => some 2
  | 'u' => some 4
  | 'U' => some 8
  | _   => none

/-- The value of a hexadecimal digit. -/
def hexValue? (c : Char) : Option Nat :=
  if '0' ≤ c ∧ c ≤ '9' then some (c.toNat - '0'.toNat)
  else if 'a' ≤ c ∧ c ≤ 'f' then some (c.toNat - 'a'.toNat + 10)
  else if 'A' ≤ c ∧ c ≤ 'F' then some (c.toNat - 'A'.toNat + 10)
  else none

/-- The character with the number that hexadecimal digits spell, if there is one. -/
def hexChar? (ds : List Char) : Option Char := do
  let vs ← ds.mapM hexValue?
  let n := vs.foldl (fun acc v => 16 * acc + v) 0
  if h : n.isValidChar then return Char.ofNatAux n h else none

/-- An escape after its backslash: the character, how many characters spell it, and what follows. -/
def escape? : List Char → Option (Char × Nat × List Char)
  | [] => none
  | c :: r => match escapeLength? c with
      | some n =>
          if r.length < n then none
          else (hexChar? (r.take n)).map fun d => (d, n + 1, r.drop n)
      | none => (shortEscape? c).map fun d => (d, 1, r)

/-- A scalar in double quotes, of which `acc` is read already, in reverse.  Each step takes a
character, so fuel as long as the text is enough. -/
def doubleFrom : (fuel : Nat) → (acc : List Char) → (gap : Gap) → (multiline : Bool) →
    (column : Nat) → List Char → Option Scanned
  | 0, _, _, _, _, _ => none
  | _, _, _, _, _, [] => none
  | fuel + 1, acc, gap, multiline, column, c :: r =>
      if c == '"' then
        some ⟨⟨.ofList (acc.reverse ++ gap.text), false⟩, ⟨column + 1, r⟩, false, multiline⟩
      else if isBreak c then doubleFrom fuel acc (gap.break_ c) true 0 r
      else if isBlank c then doubleFrom fuel acc (gap.blank c) multiline (column + 1) r
      else if column == 0 && markerNext (c :: r) then none
      else
        let acc := gap.text.reverse ++ acc
        if c == '\\' then
          match r with
          | [] => none
          | d :: r' =>
              if isBreak d then doubleFrom fuel acc (.breaks none []) true 0 r'
              else do
                let (e, n, left) ← escape? r
                doubleFrom fuel (e :: acc) .empty multiline (column + 1 + n) left
        else doubleFrom fuel (c :: acc) .empty multiline (column + 1) r

/-- What becomes of the line breaks at the end of a block scalar. -/
inductive Chomp
  | strip
  | clip
  | keep
  deriving DecidableEq

/-- A line of a text with the break that ends it, if one does. -/
abbrev Line := List Char × Option Char

/-- A text as lines. -/
def lines : List Char → List Line
  | []     => [([], none)]
  | c :: r =>
      if isBreak c then ([], some c) :: lines r
      else match lines r with
        | []           => [([c], none)]
        | (l, b) :: ls => (c :: l, b) :: ls

/-- Lines as a text. -/
def unlines (ls : List Line) : List Char := ls.flatMap fun (l, b) => l ++ b.toList

/-- The chomping that a sign asks for. -/
def chompOf? : Char → Option Chomp
  | '-' => some .strip
  | '+' => some .keep
  | _   => none

/-- The indentation that a digit asks for; zero is none. -/
def incrementOf? (c : Char) : Option Nat :=
  if '1' ≤ c ∧ c ≤ '9' then some (c.toNat - '0'.toNat) else none

/-- The signs after the one that begins a block scalar, and what follows them. -/
def blockHeader : List Char → Chomp × Option Nat × List Char
  | [] => (.clip, none, [])
  | c :: r => match chompOf? c, incrementOf? c with
      | some chomp, _ => match r with
          | d :: r' => match incrementOf? d with
              | some n => (chomp, some n, r')
              | none   => (chomp, none, r)
          | [] => (chomp, none, [])
      | none, some n => match r with
          | d :: r' => match chompOf? d with
              | some chomp => (chomp, some n, r')
              | none       => (.clip, some n, r)
          | [] => (.clip, some n, [])
      | none, none => (.clip, none, c :: r)

/-- The rest of a header line holds nothing but blanks and a comment. -/
def headerEnds (line : List Char) : Bool :=
  match line.dropWhile isBlank with
  | []     => true
  | c :: _ => c == '#'

/-- How many spaces begin a line. -/
def indentation (line : List Char) : Nat := (line.takeWhile (· == ' ')).length

/-- The indentation of a block scalar that does not give it: that of the first line that is not
empty, and at least that of the empty lines before it. -/
def detectIndent (widest : Nat) : List Line → Option Nat
  | [] => some widest
  | (l, b) :: ls =>
      let n := indentation l
      let widest := max widest n
      match l.drop n, b with
      | [],     some _ => detectIndent widest ls
      | '\t' :: _, _   => none
      | _,      _      => some widest

/-- The end of a block scalar. -/
structure BlockState where
  acc          : List Char
  lastBreak    : List Char
  emptyLines   : List Char
  startsBlank  : Bool

/-- The text of a block scalar at its end. -/
def BlockState.close (s : BlockState) : Chomp → List Char
  | .strip => s.acc.reverse
  | .clip  => s.acc.reverse ++ s.lastBreak
  | .keep  => s.acc.reverse ++ s.lastBreak ++ s.emptyLines.reverse

/-- The state after a line of text.  In a folded scalar the break between two lines becomes a space,
unless an empty line follows it or one of the lines begins with a blank. -/
def BlockState.line (folded : Bool) (s : BlockState) (l : List Char) (b : Option Char) :
    BlockState :=
  let blank := l.head?.any isBlank
  let joined :=
    if folded && s.lastBreak == ['\n'] && !s.startsBlank && !blank then
      if s.emptyLines.isEmpty then [' '] else []
    else s.lastBreak
  { acc := l.reverse ++ (s.emptyLines ++ (joined ++ s.acc))
    lastBreak := b.toList, emptyLines := [], startsBlank := blank }

/-- The lines of a block scalar that are indented by `indent`, with the place after them. -/
def blockLines (folded : Bool) (indent : Nat) (s : BlockState) :
    List Line → Option (BlockState × Cursor)
  | [] => some (s, ⟨0, []⟩)
  | (l, b) :: ls =>
      let n := min indent (indentation l)
      match l.drop n, b with
      | [], some br => blockLines folded indent { s with emptyLines := br :: s.emptyLines } ls
      | [], none    => some (s, ⟨n, []⟩)
      | c :: r, b =>
          if n < indent then
            if c == '\t' then none else some (s, ⟨n, c :: r ++ b.toList ++ unlines ls⟩)
          else blockLines folded indent (s.line folded (c :: r) b) ls

/-- A block scalar after the sign that begins it.  Text belongs to what surrounds the scalar from
the column `outer` on, and to the scalar itself from there or from the column after the first. -/
def block? (folded : Bool) (outer : Nat) (s : List Char) : Option Scanned := do
  let (chomp, increment, r) := blockHeader s
  match lines r with
  | [] => none
  | (header, _) :: ls =>
      if !headerEnds header then none
      else
        let indent ← match increment with
          | some n => some (outer - 1 + n)
          | none   => (detectIndent 0 ls).map fun n => max n (max outer 1)
        let (state, stop) ← blockLines folded indent ⟨[], [], [], false⟩ ls
        return ⟨⟨.ofList (state.close chomp), false⟩, stop, true, true⟩

/-- A scalar that begins here, block scalars aside. -/
def inline? (inBrackets : Bool) (indent : Nat) (c : Cursor) : Option Scanned :=
  match c.rest with
  | '\'' :: r => singleFrom [] .empty false (c.column + 1) r
  | '"' :: r  => doubleFrom (r.length + 1) [] .empty false (c.column + 1) r
  | r =>
      if (c.column == 0 && markerNext r) || !plainNext inBrackets r then none
      else plainFrom inBrackets indent [] .empty false c.column r

end ResourceMoves.Yaml
