import ResourceMoves.Text.Width

/-!
# Tables of text

A table drawn with `+`, `-` and `|`.  Every column is as wide as its widest line, cells are
aligned to the left with a space on either side, and a rule follows every row.  A cell with line
breaks makes its row as high as it has lines.
-/

namespace ResourceMoves.Text

/-- A cell as its lines. -/
abbrev Cell := List (List Char)

/-- The cell that holds a text. -/
def cell (s : String) : Cell := s.toList.splitOn '\n'

/-- The columns that a cell takes. -/
def cellWidth (c : Cell) : Nat := (c.map width).foldl max 0

/-- The widths of the columns of rows with `n` cells each. -/
def columnWidths (n : Nat) (rows : List (List Cell)) : List Nat :=
  (List.range n).map fun i => (rows.map fun row => cellWidth (row.getD i [])).foldl max 0

/-- A rule across the columns. -/
def gridRule (widths : List Nat) : List Char :=
  '+' :: widths.flatMap fun w => List.replicate (w + 2) '-' ++ ['+']

/-- One line of a row. -/
def rowLine (widths : List Nat) (row : List Cell) (line : Nat) : List Char :=
  '|' :: (widths.zip row).flatMap fun (w, c) =>
    let s := c.getD line []
    ' ' :: s ++ List.replicate (w - width s) ' ' ++ [' ', '|']

/-- The lines of a row. -/
def rowLines (widths : List Nat) (row : List Cell) : List (List Char) :=
  (List.range ((row.map List.length).foldl max 0)).map (rowLine widths row)

/-- The lines of a table with the given rows. -/
def gridLines (n : Nat) (rows : List (List Cell)) : List (List Char) :=
  let widths := columnWidths n rows
  gridRule widths :: rows.flatMap fun row => rowLines widths row ++ [gridRule widths]

/-- A table of texts, `n` to a row, without a line break at its end. -/
def grid (n : Nat) (rows : List (List String)) : String :=
  .ofList (['\n'].intercalate (gridLines n (rows.map fun row => row.map cell)))

end ResourceMoves.Text
