import Rerun.Text.Columns

/-!
# Tables

A table drawn with lines. Every cell is padded by one space on both sides
and filled up on the right to the width of its column, which is that of its
widest cell.

## Main definitions

* `Grid.widths`: The widths of the columns.
* `Grid.rule`: A horizontal line.
* `Grid.row`: A row of cells.
* `Grid.render`: A table with a heading.
-/

namespace Rerun

namespace Cli

namespace Grid

/-- The columns that a cell takes. -/
def width (cell : String) : Nat :=
  Columns.ofText cell.toList

/-- Widths that fit both some widths and the cells of a row. -/
def widen (widths : List Nat) (cells : List String) : List Nat :=
  List.zipWith max widths (cells.map width)

/-- The widths of the columns. -/
def widths (heading : List String) (rows : List (List String)) : List Nat :=
  rows.foldl widen (heading.map width)

/-- A horizontal line: its ends, the stroke it is made of and its crossings. -/
def rule (left stroke cross right : Char) (widths : List Nat) : String :=
  let segments := widths.map fun w => List.replicate (w + 2) stroke
  String.ofList (left :: [cross].intercalate segments ++ [right])

/-- A cell filled up to a width. -/
def pad (w : Nat) (cell : String) : List Char :=
  ' ' :: cell.toList ++ List.replicate (w - width cell) ' ' ++ [' ']

/-- A row of cells. -/
def row (widths : List Nat) (cells : List String) : String :=
  String.ofList ('│' :: ['┆'].intercalate (List.zipWith pad widths cells) ++ ['│'])

/-- A table with a heading, line by line. -/
def render (heading : List String) (rows : List (List String)) : List String :=
  let widths := widths heading rows
  let separator := rule '├' '╌' '┼' '┤' widths
  [rule '╭' '─' '┬' '╮' widths, row widths heading, rule '╞' '═' '╪' '╡' widths] ++
    (rows.map (row widths)).intersperse separator ++
    [rule '╰' '─' '┴' '╯' widths]

end Grid

end Cli

end Rerun
