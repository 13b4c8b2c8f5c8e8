/-!
# Coloured text

Text for a terminal that shows colours.  Without colours, painting leaves a text as it is.
-/

namespace ResourceMoves.Text

/-- How a text is to look. -/
inductive Ink
  | bold
  | dimmed
  | red
  | green
  | yellow
  | cyan
  deriving DecidableEq

/-- The number of the escape sequence. -/
def Ink.code : Ink → String
  | .bold   => "1"
  | .dimmed => "2"
  | .red    => "31"
  | .green  => "32"
  | .yellow => "33"
  | .cyan   => "36"

/-- The escape sequence with a number. -/
def escapeSequence (code : String) : String := "\x1b[" ++ code ++ "m"

/-- The text with the sequence `opening` after each sequence that ends a colour, so that the
colour goes on behind it. -/
def resumed (opening : List Char) : List Char → List Char
  | '\x1b' :: '[' :: '0' :: 'm' :: r =>
      '\x1b' :: '[' :: '0' :: 'm' :: (opening ++ resumed opening r)
  | c :: r => c :: resumed opening r
  | []     => []

/-- The text in the ink, if colours are shown. -/
def Ink.paint (ink : Ink) (colour : Bool) (s : String) : String :=
  let opening := escapeSequence ink.code
  if colour then opening ++ .ofList (resumed opening.toList s.toList) ++ escapeSequence "0" else s

end ResourceMoves.Text
