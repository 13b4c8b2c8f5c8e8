import ResourceMoves.Text.Columns
import ResourceMoves.Text.Emoji

/-!
# Width on a terminal

How many columns a text takes.  Most often that is the sum over its characters, but some sequences
are drawn as one: emoji that are joined, toned or chosen by a selector, flags, and the ligatures of
some scripts.  What a character adds hangs on what follows it, so a text is measured from its end
(`before`), and a `Follower` is all that is kept of what follows.
-/

namespace ResourceMoves.Text

/-- The zero width joiner. -/
def joiner : Char := '\u200d'

/-- Which form of the character before it a selector asks for. -/
inductive Selector
  | emoji
  | text
  | fullWidth
  deriving DecidableEq

/-- The form that a character selects, if it is a selector. -/
def Selector.ofChar? : Char → Option Selector
  | '\ufe0f' => some .emoji
  | '\ufe0e' => some .text
  | '\ufe01' => some .fullWidth
  | _        => none

/-- What ends a ligature. -/
inductive Ligature
  /-- An Arabic alef, after a lam. -/
  | alef
  /-- A Hebrew lamed, after an alef and a joiner. -/
  | lamed
  /-- A Buginese ya, after a vowel and a joiner. -/
  | ya
  /-- A Buginese ya with the vowel I, after a letter A. -/
  | vowelYa
  /-- A Tifinagh letter, after another one and a joiner. -/
  | consonant
  /-- A Tifinagh letter with the joiner of its script, after another letter. -/
  | joinedConsonant
  /-- The second of two Lisu tones. -/
  | tone
  /-- An Old Turkic I, after a letter Ec and a joiner. -/
  | orkhonI
  /-- A Khmer letter, after the sign that puts it below the one before. -/
  | subscript
  deriving DecidableEq

/-- What begins the text after a character, as far as it decides on the width of the character. -/
inductive Follower
  | other
  | lineFeed
  | emoji
  | tone
  | flag
  | flags
  /-- An emoji with a joiner in front, and before it maybe a selector for an emoji form. -/
  | joinedEmoji (selected : Bool)
  /-- The frame of a key that is joined to an emoji. -/
  | joinedKey (selected : Bool)
  /-- A flag letter that is joined to an emoji. -/
  | joinedFlag
  /-- Two flag letters or more, of which the first ones make a whole flag or not. -/
  | joinedFlags (paired : Bool)
  /-- The end of a tag that is joined to an emoji, with what was read of its letters and digits. -/
  | joinedTag (letters digits : Nat)
  /-- The Kirat Rai vowel E. -/
  | vowelE
  /-- The Kirat Rai vowel AI. -/
  | vowelAi
  | selector (s : Selector)
  /-- The end of a ligature, with a joiner and a selector in front or not. -/
  | ligature (l : Ligature) (joined : Bool) (s : Option Selector)
  deriving DecidableEq

namespace Follower

/-- The form that is asked for of the character before. -/
def selected? : Follower → Option Selector
  | .joinedEmoji true => some .emoji
  | .joinedKey true   => some .emoji
  | .selector s       => some s
  | .ligature _ _ s   => s
  | _                 => none

/-- The character before is joined to an emoji. -/
def isJoined : Follower → Bool
  | .joinedEmoji _ => true
  | .joinedKey _   => true
  | _              => false

/-- What follows a character, with a selector in front. -/
def select (s : Selector) : Follower → Follower
  | .ligature l joined _ => .ligature l joined (some s)
  | .joinedEmoji _       => if s = .emoji then .joinedEmoji true else .selector s
  | .joinedKey _         => if s = .emoji then .joinedKey true else .selector s
  | _                    => .selector s

/-- What follows a character that has not the form that was asked for. -/
def deselect : Follower → Follower
  | .ligature l joined _ => .ligature l joined none
  | .joinedEmoji true    => .other
  | .joinedKey true      => .other
  | .selector _          => .other
  | f                    => f

end Follower

/-- The Arabic letters that join with an alef after them. -/
def isLam (c : Char) : Bool :=
  isIn c [(0x644, 0x644), (0x6b5, 0x6b8), (0x76a, 0x76a), (0x8a6, 0x8a6), (0x8c7, 0x8c7)]

/-- The Arabic letters that join with a lam before them. -/
def isAlef (c : Char) : Bool :=
  isIn c [(0x622, 0x623), (0x625, 0x625), (0x627, 0x627), (0x671, 0x673), (0x675, 0x675),
    (0x773, 0x774), (0x870, 0x882)]

/-- The Khmer letters that have a form below the letter before them. -/
def hasSubscript (c : Char) : Bool :=
  isIn c [(0x1780, 0x1782), (0x1784, 0x1787), (0x1789, 0x178c), (0x178e, 0x1793), (0x1795, 0x1798),
    (0x179b, 0x179d), (0x17a0, 0x17a0), (0x17a2, 0x17a2), (0x17a7, 0x17a7), (0x17ab, 0x17ac),
    (0x17af, 0x17af)]

/-- The Tifinagh letters that join with each other. -/
def isTifinagh (c : Char) : Bool := isIn c [(0x2d31, 0x2d65), (0x2d6f, 0x2d6f)]

/-- The marks that ligatures of all scripts but Arabic go across. -/
def isIgnoredMark (c : Char) : Bool :=
  isIn c [(0x34f, 0x34f), (0x17b4, 0x17b5), (0x180b, 0x180d), (0x180f, 0x180f), (0x200d, 0x200d),
    (0xfe00, 0xfe0f), (0xe0100, 0xe01ef)]

/-- The quotation marks that have a form of full width. -/
def isCurlyQuote (c : Char) : Bool := isIn c [(0x2018, 0x2019), (0x201c, 0x201d)]

/-- The small letters of which tags are made. -/
def isTagLetter (c : Char) : Bool := isIn c [(0xe0061, 0xe007a)]

/-- The digits of which tags are made. -/
def isTagDigit (c : Char) : Bool := isIn c [(0xe0030, 0xe0039)]

/-- What a character is to the one before it, where what comes after it does not matter. -/
def Follower.ofChar (c : Char) : Follower :=
  if isEmoji c then .emoji
  else if isTone c then .tone
  else if isFlagLetter c then .flag
  else if isAlef c then .ligature .alef false none
  else if hasSubscript c then .ligature .subscript true none
  else if isTifinagh c then .ligature .consonant false none
  else match c.toNat with
    | 0x5dc   => .ligature .lamed false none
    | 0x1a10  => .ligature .ya false none
    | 0xa4fc  => .ligature .tone true none
    | 0xa4fd  => .ligature .tone true none
    | 0x10c03 => .ligature .orkhonI false none
    | 0x16d67 => .vowelE
    | 0x16d68 => .vowelAi
    | _       => .other

/-- A character that is one with a ligature after it: what it adds, and what it is to the character
before.  The letter that ends the ligature is counted already, so it adds nothing, or takes back
what a sign between the two has added. -/
def ligatureBefore? (c : Char) (l : Ligature) (joined : Bool) : Option (Int × Follower) :=
  let n := c.toNat
  match l with
  | .alef =>
      if isLam c then some (0, .other)
      else if isTransparent c then some (0, .ligature .alef false none)
      else none
  | .lamed => if n = 0x5d0 && joined then some (0, .other) else none
  | .ya =>
      if n = 0x1a17 && joined then some (0, .ligature .vowelYa true none) else none
  | .vowelYa => if n = 0x1a15 then some (0, .other) else none
  | .consonant =>
      if n = 0x2d7f then some (1, .ligature .joinedConsonant true none)
      else if isTifinagh c && joined then some (0, .other)
      else none
  | .joinedConsonant => if isTifinagh c then some (-1, .other) else none
  | .tone => if 0xa4f8 ≤ n && n ≤ 0xa4fb then some (0, .other) else none
  | .orkhonI => if n = 0x10c32 && joined then some (0, .other) else none
  | .subscript => if n = 0x17d2 then some (-1, .other) else none

/-- A character of a tag after a black flag, from the end: up to six letters, of which digits may
take the place of the first two; the flag itself, which is joined to what comes after the tag. -/
def tagBefore? (c : Char) (letters digits : Nat) : Option (Int × Follower) :=
  if isTagLetter c && digits = 0 && letters < 6 then some (0, .joinedTag (letters + 1) 0)
  else if isTagDigit c && digits = 0 && letters < 5 then some (0, .joinedTag letters 1)
  else if isTagDigit c && 0 < digits && digits < 3 then some (0, .joinedTag letters (digits + 1))
  else if c.toNat = 0x1f3f4 && (digits = 3 || (digits = 0 && 3 ≤ letters)) then some (0, .emoji)
  else none

/-- A character joined to an emoji after it. -/
def joinedBefore? (c : Char) : Option (Int × Follower) :=
  if c.toNat = 0x20e3 then some (0, .joinedKey false)
  else if isFlagLetter c then some (1, .joinedFlag)
  else if isTone c then some (0, .tone)
  else if c.toNat = 0xe007f then some (0, .joinedTag 0 0)
  else if isEmoji c then some (0, .emoji)
  else none

/-- A Kirat Rai vowel before the sign of the vowel E, which may be spelled in parts. -/
def vowelBefore? (c : Char) : Option (Int × Follower) :=
  match c.toNat with
  | 0x16d63 => some (0, .other)
  | 0x16d67 => some (0, .vowelAi)
  | 0x16d68 => some (1, .vowelE)
  | 0x16d69 => some (0, .other)
  | _       => none

/-- A character that is one with what follows, which has no selector in front: what it adds, and
what it is to the character before. -/
def joinBefore? (c : Char) : Follower → Option (Int × Follower)
  | .ligature l joined _ =>
      if c = joiner && l ≠ .alef then some (0, .ligature l true none)
      else if isIgnoredMark c && l ≠ .alef then some (0, .ligature l joined none)
      else ligatureBefore? c l joined
  | .emoji => if c = joiner then some (0, .joinedEmoji false) else none
  | .tone =>
      if takesTone c then some (0, .emoji)
      else if c = joiner then some (0, .joinedEmoji false)
      else none
  | .flag => if isFlagLetter c then some (1, .flags) else none
  | .flags =>
      if isFlagLetter c then some (1, .flags)
      else if c = joiner then some (0, .joinedEmoji false)
      else none
  | .joinedEmoji _ => joinedBefore? c
  | .joinedFlag => if isFlagLetter c then some (-1, .joinedFlags true) else none
  | .joinedFlags paired =>
      if isFlagLetter c then some (if paired then 3 else -1, .joinedFlags (!paired))
      else if c = joiner then some (0, .joinedEmoji false)
      else none
  | .joinedTag letters digits => tagBefore? c letters digits
  | .vowelE => vowelBefore? c
  | .vowelAi => if c.toNat = 0x16d63 then some (0, .other) else none
  | _ => none

/-- A character that no emoji selector changes. -/
def plainBefore (c : Char) (next : Follower) : Int × Follower :=
  if c.toNat ≤ 0xa0 then
    (if c = '
' && next = .lineFeed then 0 else 1, if c = '
' then .lineFeed else .other)
  else match Selector.ofChar? c, next.selected? with
    | some s, _ => (0, next.select s)
    | none, some .text =>
        if hasTextForm c then (1, .other) else joinOrAlone c next.deselect
    | none, some .fullWidth =>
        if isCurlyQuote c then (2, .other) else joinOrAlone c next.deselect
    | none, _ => joinOrAlone c next
where
  /-- A character that no selector changes. -/
  joinOrAlone (c : Char) (next : Follower) : Int × Follower :=
    (joinBefore? c next).getD (charWidth c, .ofChar c)

/-- What a character adds to the width of the text that follows it, and what it is to the character
before. -/
def before (c : Char) (next : Follower) : Int × Follower :=
  if next.selected? = some .emoji then
    if hasEmojiForm c then (if next.isJoined then 0 else 2, .emoji)
    else plainBefore c next.deselect
  else plainBefore c next

/-- The width of a text and what it is to a character before it. -/
def extent (s : List Char) : Int × Follower :=
  s.foldr (fun c (n, next) => let (m, f) := before c next; (n + m, f)) (0, .other)

/-- The columns that a text takes. -/
def width (s : List Char) : Nat := (extent s).1.toNat

example : width "a日e\u0301".toList = 4 := by decide +kernel
example : width "\u0644\u064b\u0627".toList = 1 := by decide +kernel
example : width "1\ufe0f\u20e3".toList = 2 := by decide +kernel

end ResourceMoves.Text
