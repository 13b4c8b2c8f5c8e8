import ResourceMoves.Json.Document
import ResourceMoves.Number.Stepwise

/-!
# Reading JSON

A strict reader.  It takes characters, or `none` where bytes spell no character, which a string may
hold as long as nobody asks for its text.  Blanks are space, tab, line feed and carriage return;
nothing but blanks may follow the value; control characters do not stand in strings; a number has no
leading zero and a digit on both sides of its point.  The reader does not limit the depth of a text:
that is for the part of it that is given a value (`Document.value?`).
-/

namespace ResourceMoves.Json

/-- What is left to read. -/
abbrev Input := List (Option Char)

/-- A reader of JSON: the document that characters spell, if they spell one. -/
abbrev Reader := Input → Option Document

/-- A blank between two tokens. -/
def isSpace (c : Option Char) : Bool :=
  c == some ' ' || c == some '\t' || c == some '\n' || c == some '\r'

/-- The input after blanks. -/
def skipSpace (s : Input) : Input := s.dropWhile isSpace

/-- The digits in front of the input. -/
def takeDigits (s : Input) : List Char × Input :=
  let (ds, rest) := s.span fun c => c.any ResourceMoves.Number.isDigit
  (ds.filterMap id, rest)

/-- The value of a hexadecimal digit of either case. -/
def hexValue? (c : Char) : Option Nat :=
  if '0' ≤ c ∧ c ≤ '9' then some (c.toNat - '0'.toNat)
  else if 'a' ≤ c ∧ c ≤ 'f' then some (c.toNat - 'a'.toNat + 10)
  else if 'A' ≤ c ∧ c ≤ 'F' then some (c.toNat - 'A'.toNat + 10)
  else none

/-- The number that four hexadecimal digits spell. -/
def unit? (a b c d : Option Char) : Option Nat := do
  let a ← hexValue? (← a)
  let b ← hexValue? (← b)
  let c ← hexValue? (← c)
  let d ← hexValue? (← d)
  return ((a * 16 + b) * 16 + c) * 16 + d

/-- The first half of a surrogate pair. -/
def isHighSurrogate (u : Nat) : Bool := 0xd800 ≤ u && u ≤ 0xdbff

/-- The second half of a surrogate pair. -/
def isLowSurrogate (u : Nat) : Bool := 0xdc00 ≤ u && u ≤ 0xdfff

/-- The character of a unit that is no half of a surrogate pair. -/
def unitChar? (u : Nat) : Option Char :=
  if isHighSurrogate u || isLowSurrogate u then none else some (Char.ofNat u)

/-- The character that a one-letter escape stands for. -/
def shortEscape? : Char → Option Char
  | '"'  => some '"'
  | '\\' => some '\\'
  | '/'  => some '/'
  | 'b'  => some '\x08'
  | 'f'  => some '\x0c'
  | 'n'  => some '\n'
  | 'r'  => some '\r'
  | 't'  => some '\t'
  | _    => none

/-- The rest of a string after its opening quote: its characters, `none` for each that is none, and
what follows the closing quote. -/
def stringBody? : Input → Option (List (Option Char) × Input)
  | [] => none
  | some '"' :: rest => some ([], rest)
  | some '\\' :: some 'u' :: a :: b :: c :: d ::
      some '\\' :: some 'u' :: a' :: b' :: c' :: d' :: rest => do
      let high ← unit? a b c d
      let low ← unit? a' b' c' d'
      if isHighSurrogate high && isLowSurrogate low then
        let (cs, left) ← stringBody? rest
        return (some (Char.ofNat (0x10000 + (high - 0xd800) * 0x400 + (low - 0xdc00))) :: cs, left)
      else
        let (cs, left) ← stringBody?
          (some '\\' :: some 'u' :: a' :: b' :: c' :: d' :: rest)
        return (unitChar? high :: cs, left)
  | some '\\' :: some 'u' :: a :: b :: c :: d :: rest => do
      let u ← unit? a b c d
      let (cs, left) ← stringBody? rest
      return (unitChar? u :: cs, left)
  | some '\\' :: some c :: rest => do
      let e ← shortEscape? c
      let (cs, left) ← stringBody? rest
      return (some e :: cs, left)
  | some '\\' :: _ => none
  | some c :: rest => do
      if c.toNat < 32 then none
      else
        let (cs, left) ← stringBody? rest
        return (some c :: cs, left)
  | none :: rest => do
      let (cs, left) ← stringBody? rest
      return (none :: cs, left)

/-- A string after its opening quote: its text, if all its characters are some. -/
def string? (s : Input) : Option (Option String × Input) := do
  let (cs, rest) ← stringBody? s
  return ((cs.mapM id).map String.ofList, rest)

/-- The digits after a point, if there is one. -/
def fraction? : Input → Option (Option (List Char) × Input)
  | some '.' :: r =>
      match takeDigits r with
      | ([], _)    => none
      | (ds, rest) => some (some ds, rest)
  | r => some (none, r)

/-- The power of ten after an `e`, if there is one. -/
def exponent? : Input → Option (Option Int × Input)
  | some c :: r =>
      if c = 'e' ∨ c = 'E' then
        let (negative, r) := match r with
          | some '-' :: r => (true, r)
          | some '+' :: r => (false, r)
          | r             => (false, r)
        match takeDigits r with
        | ([], _)    => none
        | (ds, rest) =>
            let power : Int := ResourceMoves.Number.value ds
            some (some (if negative then -power else power), rest)
      else some (none, some c :: r)
  | r => some (none, r)

/-- The number of a literal: an integer if it is written as one, is no negative zero and has at most
64 bits, and else a double, rounded in steps.  One that is beyond all doubles has none. -/
def numberOf (negative : Bool) (whole : List Char) (fraction : Option (List Char))
    (power : Option Int) : Option Number :=
  let i : Int := ResourceMoves.Number.value whole
  let signed := if negative then -i else i
  if fraction.isNone && power.isNone && Number.isWord signed && !(negative && i == 0) then
    some (.integer signed)
  else
    let literal : ResourceMoves.Number.Literal :=
      ⟨negative, whole, fraction.getD [], power.getD 0⟩
    let x := literal.stepwise
    if x.isFinite then some (.float x) else none

/-- A number, the sign and what follows it given. -/
def number? (negative : Bool) (s : Input) : Option (Option Number × Input) := do
  let (whole, r) ← match s with
    | some '0' :: r => some (['0'], r)
    | s => match takeDigits s with
        | ([], _)    => none
        | (ds, rest) => some (ds, rest)
  let (fraction, r) ← fraction? r
  let (power, r) ← exponent? r
  return (numberOf negative whole fraction power, r)

mutual

/-- A value at the start of the input, with what follows it.  Of every two steps one takes a
character, so fuel twice as long as the input is enough. -/
def document? : (fuel : Nat) → Input → Option (Document × Input)
  | 0, _ => none
  | fuel + 1, s =>
      match skipSpace s with
      | some 'n' :: some 'u' :: some 'l' :: some 'l' :: r => some (.null, r)
      | some 't' :: some 'r' :: some 'u' :: some 'e' :: r => some (.bool true, r)
      | some 'f' :: some 'a' :: some 'l' :: some 's' :: some 'e' :: r => some (.bool false, r)
      | some '"' :: r => do
          let (text, r) ← string? r
          return (.string text, r)
      | some '[' :: r =>
          match skipSpace r with
          | some ']' :: r => some (.array [], r)
          | r => do
              let (items, r) ← items? fuel r
              return (.array items, r)
      | some '\x7b' :: r =>
          match skipSpace r with
          | some '\x7d' :: r => some (.object [], r)
          | r => do
              let (entries, r) ← entries? fuel r
              return (.object entries, r)
      | some '-' :: r => do
          let (n, r) ← number? true r
          return (.number n, r)
      | r => do
          let (n, r) ← number? false r
          return (.number n, r)

/-- The items of an array up to its bracket; there is at least one. -/
def items? : (fuel : Nat) → Input → Option (List Document × Input)
  | 0, _ => none
  | fuel + 1, s => do
      let (item, r) ← document? fuel s
      match skipSpace r with
      | some ']' :: r => return ([item], r)
      | some ',' :: r => do
          let (items, r) ← items? fuel r
          return (item :: items, r)
      | _ => none

/-- The entries of an object up to its brace; there is at least one. -/
def entries? : (fuel : Nat) → Input → Option (List (Option String × Document) × Input)
  | 0, _ => none
  | fuel + 1, s =>
      match skipSpace s with
      | some '"' :: r => do
          let (key, r) ← string? r
          match skipSpace r with
          | some ':' :: r => do
              let (item, r) ← document? fuel r
              match skipSpace r with
              | some '\x7d' :: r => return ([(key, item)], r)
              | some ',' :: r => do
                  let (entries, r) ← entries? fuel r
                  return ((key, item) :: entries, r)
              | _ => none
          | _ => none
      | _ => none

end

namespace Document

/-- The document that characters spell. -/
def read? : Reader := fun s => do
  let (d, rest) ← document? (2 * s.length + 2) s
  if (skipSpace rest).isEmpty then return d else none

/-- The document that a text spells. -/
def ofText? (s : String) : Option Document := read? (s.toList.map some)

end Document

/-- The value that a text spells. -/
def Value.ofText? (s : String) : Option Value := do
  (← Document.ofText? s).value? depthLimit

end ResourceMoves.Json
