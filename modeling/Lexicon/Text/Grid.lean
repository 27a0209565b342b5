/-
Tables of text. Every row stands between rules; a cell is as wide as the widest line of its column, with a blank on
either side, and a row as high as its highest cell.
-/
import Lexicon.Text.Columns
import Lexicon.Text.Lines

namespace Lexicon.Grid

/-- a cell: its lines -/
abbrev Cell := List (List Char)

/-- the cell of a text -/
def cell (text : String) : Cell := linesFrom [] text.toList

/-- the columns of the widest line of a cell -/
def width (c : Cell) : Nat := (c.map Columns.ofText).foldl max 0

/-- the columns of each column of a table; rows may be short -/
def widths (rows : List (List Cell)) : List Nat :=
  let count := (rows.map List.length).foldl max 0
  (List.range count).map fun i => (rows.map fun r => width (r.getD i [])).foldl max 0

/-- the rule between rows -/
def rule (ws : List Nat) : String :=
  String.join (ws.map fun w => "+" ++ String.ofList (List.replicate (w + 2) '-')) ++ "+\n"

/-- a line of a cell, filled up to a width -/
def filled (w : Nat) (line : List Char) : String :=
  " " ++ String.ofList (line ++ List.replicate (w - Columns.ofText line) ' ') ++ " "

/-- the i-th line of a row -/
def line (ws : List Nat) (row : List Cell) (i : Nat) : String :=
  "|" ++ String.join ((ws.zip row).map fun (w, c) => filled w (c.getD i []) ++ "|") ++ "\n"

/-- a row with its lines -/
def row (ws : List Nat) (cells : List Cell) : String :=
  let height := (cells.map List.length).foldl max 1
  String.join ((List.range height).map (line ws cells))

/-- a table of texts -/
def render (rows : List (List String)) : String :=
  let cells := rows.map fun r => r.map cell
  let ws := widths cells
  rule ws ++ String.join (cells.map fun r => row ws r ++ rule ws)

end Lexicon.Grid
