import TraceView.Grid.Basic
import TraceView.Text.Lines

/-!
# Cutting trace lines into cells

Columns are bounded by the offsets at which any line of the trace has a separator. A row is cut at
its own separators only, so a cell spans every column whose bound the row lacks. Offsets count
characters.
-/

namespace TraceView

def separator : Char := '|'

/-- Offsets of the separators of a line whose first character stands at `start`. -/
def separatorsFrom (start : Nat) : List Char → List Nat
  | [] => []
  | c :: cs =>
    if c = separator then start :: separatorsFrom (start + 1) cs else separatorsFrom (start + 1) cs

/-- Union of two ascending lists, each offset once. -/
def mergeOffsets : List Nat → List Nat → List Nat
  | [], ys => ys
  | xs, [] => xs
  | x :: xs, y :: ys =>
    if x < y then x :: mergeOffsets xs (y :: ys)
    else if y < x then y :: mergeOffsets (x :: xs) ys
    else x :: mergeOffsets xs ys
  termination_by xs ys => xs.length + ys.length

def separatorOffsets (lines : List String) : List Nat :=
  lines.foldl (fun offsets line => mergeOffsets offsets (separatorsFrom 0 line.toList)) []

/-- A walk over the columns of one line: where the open cell starts, its first column and the
columns it covers so far. -/
structure CellWalk where
  start : Nat
  column : Nat
  span : Nat

def CellWalk.begin : CellWalk := ⟨0, 0, 1⟩

def CellWalk.cell (w : CellWalk) (text : List Char) : Cell :=
  ⟨w.span, w.column, String.ofList text⟩

def cellsFrom (cs : List Char) (w : CellWalk) : List Nat → List Cell
  | [] => [w.cell (cs.drop w.start)]
  | offset :: rest =>
    if cs[offset]? = some separator then
      w.cell ((cs.drop w.start).take (offset - w.start)) ::
        cellsFrom cs ⟨offset + 1, w.column + w.span, 1⟩ rest
    else cellsFrom cs { w with span := w.span + 1 } rest

def Row.cut (line : String) (separators : List Nat) : Row where
  cells := cellsFrom line.toList .begin separators
  plain := !line.toList.contains separator

/-- One row per source line; a source line without a trace line gets an empty row. -/
def Grid.build (source trace : String) : Grid :=
  let traceLines := Text.lines trace
  let separators := separatorOffsets traceLines
  { rows := (List.range (Text.lines source).length).map fun i =>
      Row.cut (traceLines[i]?.getD "") separators
    separators }

end TraceView
