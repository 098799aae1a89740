/-!
# Scope grids

The trace of a program is laid out as a table: one row per source line, the text of a row cut into
cells. A cell covers `span` columns from `column` on.
-/

namespace TraceView

structure Cell where
  span : Nat
  column : Nat
  text : String
  deriving DecidableEq, Repr

/-- A row is plain if its trace line has no separator. -/
structure Row where
  cells : List Cell
  plain : Bool
  deriving DecidableEq, Repr

def Row.width (row : Row) : Nat :=
  row.cells.foldl (fun n c => n + c.span) 0

structure Grid where
  rows : List Row
  /-- Offsets at which some trace line has a separator, ascending. -/
  separators : List Nat
  deriving DecidableEq, Repr

namespace Grid

def columnCount (grid : Grid) : Nat :=
  grid.separators.length + 1

def row? (grid : Grid) (i : Nat) : Option Row :=
  grid.rows[i]?

end Grid

end TraceView
