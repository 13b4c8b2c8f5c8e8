import ResourceMoves.Text.Unprintable

/-!
# Quoted text

Text in double quotes in which every character shows.  The quote, the backslash and the line and
tab characters have short escapes; any other character that is not printable is written by its
number, `\u{a0}`.
-/

namespace ResourceMoves.Text

/-- The hexadecimal digits of `n`, in lower case and without leading zeros. -/
def hexDigits (n : Nat) : List Char := Nat.toDigits 16 n

/-- The code point of a character, as an escape. -/
def codePoint (c : Char) : List Char :=
  ['\\', 'u', '\x7b'] ++ hexDigits c.toNat ++ ['\x7d']

/-- A character between the quotes. -/
def shown (c : Char) : List Char :=
  match c with
  | '"'    => ['\\', '"']
  | '\\'   => ['\\', '\\']
  | '\n'   => ['\\', 'n']
  | '\r'   => ['\\', 'r']
  | '\t'   => ['\\', 't']
  | '\x00' => ['\\', '0']
  | c      => if isPrintable c then [c] else codePoint c

/-- The characters of a text in quotes. -/
def quote (s : List Char) : List Char := '"' :: s.flatMap shown ++ ['"']

/-- A text in quotes. -/
def quoted (s : String) : String := .ofList (quote s.toList)

end ResourceMoves.Text
