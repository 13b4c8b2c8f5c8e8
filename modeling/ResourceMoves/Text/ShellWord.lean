/-!
# Shell words

A text as one word of a shell command: in single quotes, between which every character stands for
itself.  A single quote leaves the quotes, is escaped, and enters them again.
-/

namespace ResourceMoves.Text

/-- A character between single quotes. -/
def shellChar (c : Char) : List Char := if c = '\'' then ['\'', '\\', '\'', '\''] else [c]

/-- The characters of a text as one word. -/
def shellQuote (s : List Char) : List Char := '\'' :: s.flatMap shellChar ++ ['\'']

/-- A text as one word. -/
def shellWord (s : String) : String := .ofList (shellQuote s.toList)

end ResourceMoves.Text
