import Mathlib.Algebra.GroupWithZero.Nat
import TraceView.Page.Palette
import TraceView.Proofs.Grid.Layout

/-!
# Rows in alignment

Each row is cut on its own, at some of the offsets that all rows share. Its cells tile the columns,
and the column of a cell tells at which offset of the line the cell begins. So cells of any two rows
that begin at the same offset stand in one column, and in one colour.
-/
namespace TraceView.Proofs.Grid

open TraceView

/-- The line of a trace that a row shows. -/
def traceLine (trace : String) (i : Nat) : String := (Text.lines trace)[i]?.getD ""

/-- Where a cell of a row begins in the line: one separator follows each cell before it. -/
def beginOf (cells : List Cell) (k : Nat) : Nat :=
  ((cells.take k).map (·.text.length + 1)).sum

/-- The cells of a row, one after the other, cover all columns. -/
structure Tiles (columns : Nat) (row : Row) : Prop where
  first : row.cells[0]?.map (·.column) = some 0
  next : ∀ k cell cell', row.cells[k]? = some cell → row.cells[k + 1]? = some cell' →
    cell'.column = cell.column + cell.span
  span : ∀ cell ∈ row.cells, 1 ≤ cell.span
  width : row.width = columns

/-- Each cell holds a part of the line, between the separators that bound its columns. -/
structure Stands (offsets : List Nat) (cs : List Char) (cells : List Cell) : Prop where
  text : ∀ k cell, cells[k]? = some cell → cell.text.toList <+: cs.drop (beginOf cells k)
  left : ∀ k cell, 0 < k → cells[k]? = some cell →
    ∃ offset, offsets[cell.column - 1]? = some offset ∧ cs[offset]? = some separator ∧
      beginOf cells k = offset + 1
  right : ∀ k cell, k + 1 < cells.length → cells[k]? = some cell →
    ∃ offset, offsets[cell.column + cell.span - 1]? = some offset ∧
      cs[offset]? = some separator ∧ beginOf cells k + cell.text.length = offset

/-- A cell of a grid, the row it is in and its place there. -/
structure IsCell (grid : Grid) (row : Row) (k : Nat) (cell : Cell) : Prop where
  mem : row ∈ grid.rows
  eq : row.cells[k]? = some cell

/-- Two cells that begin after the same separator, each in its row. -/
def BeginTogether (row row' : Row) (k k' : Nat) : Prop :=
  0 < k ∧ 0 < k' ∧ beginOf row.cells k = beginOf row'.cells k'

/-- The rows of a grid are those of the source, and their columns are those of the separators. -/
structure Aligned (source trace : String) (grid : Grid) : Prop where
  rows : grid.rows.length = (Text.lines source).length
  ascending : grid.separators.Pairwise (· < ·)
  separators : ∀ n, n ∈ grid.separators ↔
    ∃ line ∈ Text.lines trace, line.toList[n]? = some separator
  row : ∀ i row, grid.row? i = some row →
    Tiles (grid.separators.length + 1) row ∧
      Stands grid.separators (traceLine trace i).toList row.cells
  columns : ∀ row row' k k' cell cell', IsCell grid row k cell → IsCell grid row' k' cell' →
    BeginTogether row row' k k' → cell.column = cell'.column
  begins : ∀ row row' k k' cell cell', IsCell grid row k cell → IsCell grid row' k' cell' →
    cell.column = cell'.column → beginOf row.cells k = beginOf row'.cells k'
  colors : ∀ row row' k k' cell cell', IsCell grid row k cell → IsCell grid row' k' cell' →
    BeginTogether row row' k k' ∨ cell.column = cell'.column →
    row.plain = false → row'.plain = false → Page.cellColor row cell = Page.cellColor row' cell'

section Row

variable {cs : List Char} {offsets : List Nat} {start column : Nat} {cells : List Cell}
  {cell cell' : Cell} {k : Nat}

theorem beginOf_succ (cells : List Cell) (cell : Cell) (k : Nat) :
    beginOf (cell :: cells) (k + 1) = cell.text.length + 1 + beginOf cells k := by
  rw [beginOf, List.take_succ_cons, List.map_cons, List.sum_cons]
  rfl

theorem beginOf_next (h : cells[k]? = some cell) :
    beginOf cells (k + 1) = beginOf cells k + cell.text.length + 1 := by
  rw [beginOf, List.take_add_one, h, List.map_append, List.sum_append]
  simp [beginOf, Nat.add_assoc]

theorem Laid.head (h : Laid cs offsets start column cells) :
    cells[0]?.map (·.column) = some column := by
  cases h <;> rfl

theorem Laid.span (h : Laid cs offsets start column cells) : ∀ cell ∈ cells, 1 ≤ cell.span := by
  induction h with
  | last hs => simpa using hs
  | cut hs _ _ _ _ _ ih => simpa using ⟨hs, ih⟩

theorem Laid.width (h : Laid cs offsets start column cells) :
    column + (cells.map (·.span)).sum = offsets.length + 1 := by
  induction h with
  | last hs hc => simpa using hc
  | cut hs ho hsep hle hfree rest ih =>
    rw [List.map_cons, List.sum_cons, ← Nat.add_assoc]
    exact ih

theorem length_take_drop {offset : Nat} (hle : start ≤ offset) (h : cs[offset]? = some separator) :
    (String.ofList ((cs.drop start).take (offset - start))).length = offset - start := by
  obtain ⟨hlt, -⟩ := List.getElem?_eq_some_iff.mp h
  rw [String.length_ofList, List.length_take, List.length_drop]
  omega

theorem Laid.text (h : Laid cs offsets start column cells) (hk : cells[k]? = some cell) :
    cell.text.toList <+: cs.drop (start + beginOf cells k) := by
  induction h generalizing k with
  | last hs hc hfree =>
    cases k with
    | zero =>
      cases hk
      rw [String.toList_ofList]
      exact List.prefix_rfl
    | succ k => simp at hk
  | @cut start column span offset cells hs ho hsep hle hfree rest ih =>
    cases k with
    | zero =>
      cases hk
      rw [String.toList_ofList]
      exact List.take_prefix ..
    | succ k =>
      rw [beginOf_succ, length_take_drop hle hsep]
      have hrest := ih hk
      rwa [show start + (offset - start + 1 + beginOf cells k) =
        offset + 1 + beginOf cells k by omega]

/-- What stands between two cells of a row. -/
theorem Laid.between (h : Laid cs offsets start column cells) (hk : cells[k]? = some cell)
    (hk' : cells[k + 1]? = some cell') :
    cell'.column = cell.column + cell.span ∧
      ∃ offset, offsets[cell.column + cell.span - 1]? = some offset ∧
        cs[offset]? = some separator ∧ start + beginOf cells k + cell.text.length = offset := by
  induction h generalizing k with
  | last => simp at hk'
  | @cut start column span offset cells hs ho hsep hle hfree rest ih =>
    cases k with
    | zero =>
      cases hk
      have hcolumn : cell'.column = column + span := by
        have hhead := rest.head
        rw [List.getElem?_cons_succ] at hk'
        rw [hk'] at hhead
        exact Option.some.inj hhead
      refine ⟨hcolumn, offset, ho, hsep, ?_⟩
      rw [length_take_drop hle hsep]
      exact Nat.add_sub_cancel' hle
    | succ k =>
      obtain ⟨hcolumn, offset', ho', hsep', hend⟩ := ih hk hk'
      refine ⟨hcolumn, offset', ho', hsep', ?_⟩
      rw [beginOf_succ, length_take_drop hle hsep]
      omega

theorem width_eq_sum (row : Row) : row.width = (row.cells.map (·.span)).sum := by
  have hfold : ∀ (cells : List Cell) (n : Nat),
      cells.foldl (fun n c => n + c.span) n = n + (cells.map (·.span)).sum := by
    intro cells
    induction cells with
    | nil => exact fun _ => rfl
    | cons cell cells ih =>
      intro n
      rw [List.foldl_cons, ih, List.map_cons, List.sum_cons, Nat.add_assoc]
  rw [Row.width, hfold, Nat.zero_add]

theorem Laid.tiles {row : Row} (h : Laid cs offsets 0 0 row.cells) :
    Tiles (offsets.length + 1) row where
  first := h.head
  next _ _ _ hk hk' := (h.between hk hk').1
  span := h.span
  width := by
    rw [width_eq_sum, ← h.width, Nat.zero_add]

theorem Laid.stands (h : Laid cs offsets 0 0 cells) : Stands offsets cs cells where
  text k cell hk := by
    have htext := h.text hk
    rwa [Nat.zero_add] at htext
  left k cell hpos hk := by
    obtain ⟨j, rfl⟩ : ∃ j, k = j + 1 := ⟨k - 1, by omega⟩
    obtain ⟨hlt, -⟩ := List.getElem?_eq_some_iff.mp hk
    have hj : cells[j]? = some cells[j] := List.getElem?_eq_getElem (Nat.lt_of_succ_lt hlt)
    obtain ⟨hcolumn, offset, ho, hsep, hend⟩ := h.between hj hk
    refine ⟨offset, hcolumn ▸ ho, hsep, ?_⟩
    rw [beginOf_next hj, ← hend, Nat.zero_add]
  right k cell hlt hk := by
    obtain ⟨-, offset, ho, hsep, hend⟩ := h.between hk (List.getElem?_eq_getElem hlt)
    rw [Nat.zero_add] at hend
    exact ⟨offset, ho, hsep, hend⟩

/-- Only the first cell of a row stands in the first column. -/
theorem Tiles.column_pos {columns : Nat} {row : Row} (h : Tiles columns row)
    (hk : row.cells[k]? = some cell) : 0 < cell.column ↔ 0 < k := by
  cases k with
  | zero =>
    have hfirst := h.first
    rw [hk] at hfirst
    have hzero : cell.column = 0 := Option.some.inj hfirst
    rw [hzero]
  | succ k =>
    obtain ⟨hlt, -⟩ := List.getElem?_eq_some_iff.mp hk
    have hprev : row.cells[k]? = some row.cells[k] :=
      List.getElem?_eq_getElem (Nat.lt_of_succ_lt hlt)
    have hspan := h.span _ (List.mem_of_getElem? hprev)
    have hnext := h.next k _ _ hprev hk
    omega

end Row

section Rows

variable {offsets : List Nat} {row row' : Row} {k k' columns columns' : Nat} {cell cell' : Cell}
  {line line' : List Char}

theorem column_of_begin (hasc : offsets.Pairwise (· < ·)) (ht : Tiles columns row)
    (hs : Stands offsets line row.cells) (hk : row.cells[k]? = some cell)
    (ht' : Tiles columns' row') (hs' : Stands offsets line' row'.cells)
    (hk' : row'.cells[k']? = some cell') (h : BeginTogether row row' k k') :
    cell.column = cell'.column := by
  obtain ⟨hpos, hpos', hbegin⟩ := h
  obtain ⟨offset, ho, -, he⟩ := hs.left k cell hpos hk
  obtain ⟨offset', ho', -, he'⟩ := hs'.left k' cell' hpos' hk'
  obtain rfl : offset = offset' := by omega
  obtain ⟨hlt, -⟩ := List.getElem?_eq_some_iff.mp ho
  have hindex := (List.getElem?_inj hlt (hasc.imp Nat.ne_of_lt)).mp (ho.trans ho'.symm)
  have hc := (ht.column_pos hk).mpr hpos
  have hc' := (ht'.column_pos hk').mpr hpos'
  omega

theorem begin_of_column (ht : Tiles columns row) (hs : Stands offsets line row.cells)
    (hk : row.cells[k]? = some cell) (ht' : Tiles columns' row')
    (hs' : Stands offsets line' row'.cells) (hk' : row'.cells[k']? = some cell')
    (h : cell.column = cell'.column) : beginOf row.cells k = beginOf row'.cells k' := by
  have hpos := ht.column_pos hk
  have hpos' := ht'.column_pos hk'
  rw [h, hpos'] at hpos
  rcases Nat.eq_zero_or_pos k with rfl | hk0
  · obtain rfl : k' = 0 := by omega
    rfl
  · obtain ⟨offset, ho, -, he⟩ := hs.left k cell hk0 hk
    obtain ⟨offset', ho', -, he'⟩ := hs'.left k' cell' (hpos.mpr hk0) hk'
    rw [h, ho'] at ho
    cases ho
    rw [he, he']

end Rows

theorem row?_build {source trace : String} {i : Nat} {row : Row}
    (h : (Grid.build source trace).row? i = some row) :
    i < (Text.lines source).length ∧
      row = Row.cut (traceLine trace i) (separatorOffsets (Text.lines trace)) := by
  simp only [Grid.row?, Grid.build, List.getElem?_map, Option.map_eq_some_iff] at h
  obtain ⟨j, hj, rfl⟩ := h
  obtain ⟨hlt, rfl⟩ := List.getElem?_eq_some_iff.mp hj
  rw [List.length_range] at hlt
  rw [List.getElem_range]
  exact ⟨hlt, rfl⟩

/-- Every row is laid out on the offsets of all lines. -/
theorem laid_row (trace : String) (i : Nat) :
    Laid (traceLine trace i).toList (separatorOffsets (Text.lines trace)) 0 0
      (Row.cut (traceLine trace i) (separatorOffsets (Text.lines trace))).cells := by
  refine laid_cut (ascending_separatorOffsets _) fun n hn => ?_
  rw [traceLine] at hn
  cases hline : (Text.lines trace)[i]? with
  | none => simp [hline] at hn
  | some line =>
    rw [hline] at hn
    exact (mem_separatorOffsets _).mpr ⟨line, List.mem_of_getElem? hline, hn⟩

/-- Grids are aligned, whatever the trace is. -/
theorem build_aligned (source trace : String) :
    Aligned source trace (Grid.build source trace) := by
  have hasc := ascending_separatorOffsets (Text.lines trace)
  have hrow : ∀ i row, (Grid.build source trace).row? i = some row →
      Tiles ((Grid.build source trace).separators.length + 1) row ∧
        Stands (Grid.build source trace).separators (traceLine trace i).toList row.cells := by
    intro i row h
    obtain ⟨-, rfl⟩ := row?_build h
    exact ⟨(laid_row trace i).tiles, (laid_row trace i).stands⟩
  have hmem : ∀ row ∈ (Grid.build source trace).rows, ∃ i,
      Tiles ((Grid.build source trace).separators.length + 1) row ∧
        Stands (Grid.build source trace).separators (traceLine trace i).toList row.cells := by
    intro row h
    obtain ⟨i, hi⟩ := List.mem_iff_getElem?.mp h
    exact ⟨i, hrow i row hi⟩
  have hcolumns : ∀ row row' k k' cell cell', IsCell (Grid.build source trace) row k cell →
      IsCell (Grid.build source trace) row' k' cell' → BeginTogether row row' k k' →
        cell.column = cell'.column := by
    intro row row' k k' cell cell' h h' htogether
    obtain ⟨i, ht, hs⟩ := hmem row h.mem
    obtain ⟨i', ht', hs'⟩ := hmem row' h'.mem
    exact column_of_begin hasc ht hs h.eq ht' hs' h'.eq htogether
  refine ⟨?_, hasc, fun n => mem_separatorOffsets _, hrow, hcolumns, ?_, ?_⟩
  · simp [Grid.build]
  · intro row row' k k' cell cell' h h' hcolumn
    obtain ⟨i, ht, hs⟩ := hmem row h.mem
    obtain ⟨i', ht', hs'⟩ := hmem row' h'.mem
    exact begin_of_column ht hs h.eq ht' hs' h'.eq hcolumn
  · intro row row' k k' cell cell' h h' hsame hp hp'
    have hcolumn := hsame.elim (hcolumns row row' k k' cell cell' h h') id
    simp only [Page.cellColor, hp, hp', hcolumn]

end TraceView.Proofs.Grid
