import TraceView.Grid.Basic

/-!
# Colours of cells

The colour of a cell is that of its first column; the palette repeats. A row without trace data has
one neutral colour.
-/

namespace TraceView.Page

def palette : List String :=
  ["#90CAF9", "#A5D6A7", "#EF9A9A", "#FFF59D", "#CE93D8", "#FFCC80", "#80CBC4", "#9FA8DA"]

def neutral : String := "#f5f5f5"

def columnColor (column : Nat) : String :=
  palette.getD (column % palette.length) neutral

def cellColor (row : Row) (cell : Cell) : String :=
  if row.plain then neutral else columnColor cell.column

end TraceView.Page
