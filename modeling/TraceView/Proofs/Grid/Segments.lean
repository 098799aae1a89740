import Mathlib.Data.List.Basic
import TraceView.Proofs.Grid.Alignment

/-!
# Rows and the text of their lines

A row is cut at offsets that other lines of the trace have brought in, yet its cells hold its own
line split at each separator, no more and no less. Each segment that the walk takes begins at or
before its end, and ends within the line.
-/
namespace TraceView.Proofs.Grid

open TraceView

/-- The characters from `start` up to `stop`, if there are such places in the line. -/
def slice? (cs : List Char) (start stop : Nat) : Option (List Char) :=
  if start ≤ stop ∧ stop ≤ cs.length then some ((cs.drop start).take (stop - start)) else none

/-- The walk of `cellsFrom` if it stops at the first segment that is out of range. The last one is
not taken at all where nothing follows the last separator. -/
def cellsFrom? (cs : List Char) (w : CellWalk) : List Nat → Option (List Cell)
  | [] =>
    if w.start < cs.length then (slice? cs w.start cs.length).map fun text => [w.cell text]
    else some [w.cell []]
  | offset :: rest =>
    if cs[offset]? = some separator then do
      let text ← slice? cs w.start offset
      let cells ← cellsFrom? cs ⟨offset + 1, w.column + w.span, 1⟩ rest
      some (w.cell text :: cells)
    else cellsFrom? cs { w with span := w.span + 1 } rest

/-- What a row shows of its line. -/
structure HoldsLine (grid : Grid) (line : String) (row : Row) : Prop where
  texts : row.cells.map (·.text.toList) = line.toList.splitOn separator
  joined : [separator].intercalate (row.cells.map (·.text.toList)) = line.toList
  plain : row.plain = true ↔ separator ∉ line.toList
  whole : row.plain = true → row.cells = [⟨grid.columnCount, 0, line⟩]
  inRange : cellsFrom? line.toList .begin grid.separators = some row.cells

section Slices

variable {cs : List Char} {start stop : Nat}

theorem slice?_of_le (hstart : start ≤ stop) (hstop : stop ≤ cs.length) :
    slice? cs start stop = some ((cs.drop start).take (stop - start)) :=
  if_pos ⟨hstart, hstop⟩

theorem slice?_rest (h : start ≤ cs.length) : slice? cs start cs.length = some (cs.drop start) := by
  rw [slice?_of_le h (Nat.le_refl _), List.take_of_length_le (List.length_drop ▸ Nat.le_refl _)]

/-- On ascending offsets the walk stays in range: the open cell starts no later than any offset that
is still to come. -/
theorem cellsFrom?_eq {rest : List Nat} {w : CellWalk} (hasc : rest.Pairwise (· < ·))
    (hstart : ∀ n ∈ rest, w.start ≤ n) : cellsFrom? cs w rest = some (cellsFrom cs w rest) := by
  induction rest generalizing w with
  | nil =>
    rw [cellsFrom?, cellsFrom]
    split
    · next hlt => rw [slice?_rest (Nat.le_of_lt hlt), Option.map_some]
    · next hle => rw [List.drop_of_length_le (Nat.le_of_not_lt hle)]
  | cons offset rest ih =>
    obtain ⟨hafter, hrest⟩ := List.pairwise_cons.mp hasc
    rw [cellsFrom?, cellsFrom]
    split
    · next hsep =>
      obtain ⟨hlt, -⟩ := List.getElem?_eq_some_iff.mp hsep
      have hcells : cellsFrom? cs ⟨offset + 1, w.column + w.span, 1⟩ rest =
          some (cellsFrom cs ⟨offset + 1, w.column + w.span, 1⟩ rest) := ih hrest hafter
      rw [slice?_of_le (hstart offset List.mem_cons_self) (Nat.le_of_lt hlt), hcells]
      rfl
    · exact ih hrest fun n hn => hstart n (List.mem_cons_of_mem _ hn)

end Slices

section Cut

variable {cs : List Char} {offsets : List Nat} {start column : Nat} {cells : List Cell}

/-- What has no separator is one cell, over all columns that are left. -/
theorem Laid.whole (h : Laid cs offsets start column cells) (hfree : separator ∉ cs.drop start) :
    cells = [⟨offsets.length + 1 - column, column, String.ofList (cs.drop start)⟩] := by
  cases h with
  | last hs hc _ => rw [← hc, Nat.add_sub_cancel_left]
  | @cut start column span offset cells hs ho hsep hle hcut rest =>
    refine absurd ?_ hfree
    rw [drop_eq_take_cons hle hsep]
    exact List.mem_append_right _ List.mem_cons_self

theorem plain_cut (line : String) (offsets : List Nat) :
    (Row.cut line offsets).plain = true ↔ separator ∉ line.toList := by
  simp [Row.cut]

theorem holdsLine_cut {grid : Grid} {line : String} (hasc : grid.separators.Pairwise (· < ·))
    (hlaid : Laid line.toList grid.separators 0 0 (Row.cut line grid.separators).cells) :
    HoldsLine grid line (Row.cut line grid.separators) where
  texts := hlaid.texts
  joined := by rw [hlaid.texts, List.drop_zero, List.intercalate_splitOn]
  plain := plain_cut line grid.separators
  whole hplain := by
    have hwhole := hlaid.whole ((plain_cut line grid.separators).mp hplain)
    rwa [List.drop_zero, String.ofList_toList] at hwhole
  inRange := cellsFrom?_eq hasc fun _ _ => Nat.zero_le _

end Cut

/-- No text of a trace is lost or moved: every row shows its line of the trace, and of the trace
nothing else. -/
theorem row_holds_line (source trace : String) {i : Nat} {row : Row}
    (h : (Grid.build source trace).row? i = some row) :
    HoldsLine (Grid.build source trace) (traceLine trace i) row ∧
      ∀ source' trace' row', (Grid.build source' trace').row? i = some row' →
        traceLine trace' i = traceLine trace i →
          row'.cells.map (·.text) = row.cells.map (·.text) := by
  have hholds : ∀ source trace row, (Grid.build source trace).row? i = some row →
      HoldsLine (Grid.build source trace) (traceLine trace i) row := by
    intro source trace row h
    obtain ⟨-, rfl⟩ := row?_build h
    exact holdsLine_cut (ascending_separatorOffsets _) (laid_row trace i)
  refine ⟨hholds source trace row h, fun source' trace' row' h' hline => ?_⟩
  have htexts := (hholds source' trace' row' h').texts
  rw [hline, ← (hholds source trace row h).texts] at htexts
  refine List.map_injective_iff.mpr (fun _ _ => String.toList_injective) ?_
  rwa [List.map_map, List.map_map]

/-- The second line has no separator where the first has its second one. -/
theorem row_holds_line_foreign :
    (Grid.build "f(é)\ny = é\n" "é |1|\né = é||").row? 1 =
      some ⟨[⟨3, 0, "é = é"⟩, ⟨1, 3, ""⟩, ⟨1, 4, ""⟩], false⟩ ∧
    cellsFrom? "é = é||".toList .begin [2, 4, 5, 6] =
      some [⟨3, 0, "é = é"⟩, ⟨1, 3, ""⟩, ⟨1, 4, ""⟩] ∧
    ["é = é", "", ""].map String.toList = "é = é||".toList.splitOn separator := by
  have hrow : (Grid.build "f(é)\ny = é\n" "é |1|\né = é||").row? 1 =
      some ⟨[⟨3, 0, "é = é"⟩, ⟨1, 3, ""⟩, ⟨1, 4, ""⟩], false⟩ := by decide +kernel
  obtain ⟨hholds, -⟩ := row_holds_line _ _ hrow
  have hline : traceLine "é |1|\né = é||" 1 = "é = é||" := by decide +kernel
  have hseps : (Grid.build "f(é)\ny = é\n" "é |1|\né = é||").separators = [2, 4, 5, 6] := by
    decide +kernel
  have htexts := hholds.texts
  have hinRange := hholds.inRange
  rw [hline] at htexts hinRange
  rw [hseps] at hinRange
  exact ⟨hrow, hinRange, htexts⟩

end TraceView.Proofs.Grid
