import ResourceMoves.Json.Value
import ResourceMoves.Number.Notation

/-!
# JSON text

Values as JSON text: compact, without any space, or spread over lines indented by two spaces
(`Value.pretty`).  A string is quoted with the short escapes and, for the other control characters,
four lowercase hexadecimal digits; everything else is written as it is.
-/

namespace ResourceMoves.Json

/-- The hexadecimal digit for `d`, which is below sixteen, in lower case. -/
def hexDigit (d : Nat) : Char :=
  if d < 10 then Char.ofNat ('0'.toNat + d) else Char.ofNat ('a'.toNat + (d - 10))

/-- A character inside a string. -/
def escaped (c : Char) : List Char :=
  if c = '"' then ['\\', '"']
  else if c = '\\' then ['\\', '\\']
  else if c = '\n' then ['\\', 'n']
  else if c = '\r' then ['\\', 'r']
  else if c = '\t' then ['\\', 't']
  else if c.toNat = 8 then ['\\', 'b']
  else if c.toNat = 12 then ['\\', 'f']
  else if c.toNat < 32 then
    ['\\', 'u', '0', '0', hexDigit (c.toNat / 16), hexDigit (c.toNat % 16)]
  else [c]

/-- A string in quotes. -/
def quoted (s : String) : String :=
  .ofList ('"' :: s.toList.flatMap escaped ++ ['"'])

/-- A number; an infinity and `nan` have no text of their own and become `null`. -/
def Number.compact : Number → String
  | .integer i => ResourceMoves.Number.intText i
  | .float x   => match x.json? with
      | some s => .ofList s
      | none   => "null"

/-- Texts with a comma between two. -/
def commaSeparated (items : List String) : String := ",".intercalate items

mutual

/-- The value without any space. -/
def Value.compact : Value → String
  | .null           => "null"
  | .bool true      => "true"
  | .bool false     => "false"
  | .number n       => n.compact
  | .string s       => quoted s
  | .array items    => "[" ++ commaSeparated (compactItems items) ++ "]"
  | .object entries => "\x7b" ++ commaSeparated (compactEntries entries) ++ "\x7d"

/-- The items of an array, each without any space. -/
def compactItems : List Value → List String
  | []      => []
  | v :: vs => v.compact :: compactItems vs

/-- The entries of an object, each without any space. -/
def compactEntries : List (String × Value) → List String
  | []           => []
  | (k, v) :: es => (quoted k ++ ":" ++ v.compact) :: compactEntries es

end

/-- A line break and the indentation of a depth. -/
def newline (depth : Nat) : String := "\n" ++ String.ofList (List.replicate (2 * depth) ' ')

/-- Texts on a line each between two brackets; only the brackets if there is none. -/
def spread (opening closing : String) (depth : Nat) (items : List String) : String :=
  if items.isEmpty then opening ++ closing
  else
    opening ++ newline (depth + 1) ++ ("," ++ newline (depth + 1)).intercalate items ++
      newline depth ++ closing

mutual

/-- The value over lines, inside `depth` arrays and objects. -/
def Value.prettyAt (depth : Nat) : Value → String
  | .array items    => spread "[" "]" depth (prettyItems (depth + 1) items)
  | .object entries => spread "\x7b" "\x7d" depth (prettyEntries (depth + 1) entries)
  | v               => v.compact

/-- The items of an array, each over lines. -/
def prettyItems (depth : Nat) : List Value → List String
  | []      => []
  | v :: vs => v.prettyAt depth :: prettyItems depth vs

/-- The entries of an object, each over lines. -/
def prettyEntries (depth : Nat) : List (String × Value) → List String
  | []           => []
  | (k, v) :: es => (quoted k ++ ": " ++ v.prettyAt depth) :: prettyEntries depth es

end

/-- The value over lines. -/
def Value.pretty (v : Value) : String := v.prettyAt 0

end ResourceMoves.Json
