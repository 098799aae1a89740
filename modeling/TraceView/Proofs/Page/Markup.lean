import Mathlib.Data.List.Forall2
import TraceView.Page.Panel
import TraceView.Proofs.Html.Escape

/-!
# The markup of a page

All characters of a page that HTML reads as markup stand in its fixed pieces. Which pieces there are
is decided by the shape of a preview, so previews of one shape have the same markup whatever their
texts say. Variables are left out: they go into a script as data.
-/
namespace TraceView.Proofs.Page

open TraceView TraceView.Page
open TraceView.Html (DisplayFlags Piece entity escape writePieces)

def isMarkup (c : Char) : Bool := c = '<' || c = '>' || c = '"' || c = '\''

/-- The markup characters of a text, in order. -/
def markupOf (s : String) : List Char := s.toList.filter isMarkup

structure CellsAlike (cell cell' : Cell) : Prop where
  span : cell.span = cell'.span
  column : cell.column = cell'.column

/-- Rows that differ in the texts of their cells at most. -/
structure RowsAlike (row row' : Row) : Prop where
  plain : row.plain = row'.plain
  cells : List.Forall₂ CellsAlike row.cells row'.cells

/-- Panels of one kind, whose grids have one shape; their texts are free. -/
inductive PanelsAlike : Panel → Panel → Prop where
  | landing : PanelsAlike .landing .landing
  | trace {grid grid' source source' trace trace' interpreter interpreter'}
      (rows : List.Forall₂ RowsAlike grid.rows grid'.rows) :
      PanelsAlike (.trace grid source trace interpreter) (.trace grid' source' trace' interpreter')
  | failure {message message' interpreter interpreter'} :
      PanelsAlike (.failure message interpreter) (.failure message' interpreter')
  | installPrompt {message message'} :
      PanelsAlike (.installPrompt message) (.installPrompt message')

/-- Previews without variables that differ in the texts of their panels at most. -/
structure Alike (p p' : Preview) : Prop where
  panel : PanelsAlike p.panel p'.panel
  scrollLine : p.scrollLine = p'.scrollLine
  unplaced : p.placed = none ∧ p'.placed = none

theorem markupOf_escape (s : String) : markupOf (escape s) = [] := by
  have hentity : ∀ c, (entity c).filter isMarkup = [] := by
    intro c
    unfold entity
    split
    · rfl
    · rfl
    · rfl
    · rfl
    · rfl
    · next hlt hgt hquot hapos => simpa [isMarkup] using ⟨⟨⟨hlt, hgt⟩, hquot⟩, hapos⟩
  rw [markupOf, Proofs.Html.toList_escape, Html.escapeChars, List.filter_flatMap]
  exact List.flatMap_eq_nil_iff.mpr fun c _ => hentity c

section Pieces

variable {flags : DisplayFlags} {token : String}

/-- The markup characters that are written for some pieces. -/
def markup (flags : DisplayFlags) (token : String) (pieces : List Piece) : List Char :=
  pieces.flatMap fun piece => markupOf (piece.write flags token)

theorem markupOf_writePieces (pieces : List Piece) :
    markupOf (writePieces flags token pieces) = markup flags token pieces := by
  rw [markupOf, writePieces, String.toList_join, List.flatMap_map, List.filter_flatMap]
  rfl

theorem markup_append (pieces more : List Piece) :
    markup flags token (pieces ++ more) = markup flags token pieces ++ markup flags token more :=
  List.flatMap_append

theorem markup_cons (piece : Piece) (pieces : List Piece) :
    markup flags token (piece :: pieces) =
      markupOf (piece.write flags token) ++ markup flags token pieces := rfl

theorem markupOf_text (s : String) : markupOf (Piece.write flags token (.text s)) = [] :=
  markupOf_escape s

theorem markup_cell {row row' : Row} {cell cell' : Cell} (hrow : row.plain = row'.plain)
    (h : CellsAlike cell cell') :
    markup flags token (cellPieces row cell) = markup flags token (cellPieces row' cell') := by
  have htext : ∀ cell : Cell, markupOf (Piece.write flags token
      (if cell.text.isEmpty then .markup "&nbsp;" else .text cell.text)) = [] := by
    intro cell
    split
    · change markupOf "&nbsp;" = []
      decide
    · exact markupOf_text _
  have hcolor : cellColor row cell = cellColor row' cell' := by
    rw [cellColor, cellColor, hrow, h.column]
  simp only [cellPieces, markup_cons, htext, h.span, h.column, hcolor]

theorem markup_row {row row' : Row} (h : RowsAlike row row') (line line' : String) :
    markup flags token (rowPieces line row) = markup flags token (rowPieces line' row') := by
  have hcells : ∀ {cells cells' : List Cell}, List.Forall₂ CellsAlike cells cells' →
      markup flags token (cells.flatMap (cellPieces row)) =
        markup flags token (cells'.flatMap (cellPieces row')) := by
    intro cells cells' hcells
    induction hcells with
    | nil => rw [List.flatMap_nil, List.flatMap_nil]
    | cons hcell _ ih =>
      rw [List.flatMap_cons, List.flatMap_cons, markup_append, markup_append,
        markup_cell h.plain hcell, ih]
  simp only [rowPieces, markup_append, markup_cons, markupOf_text, hcells h.cells]

theorem markup_tableRows {rows rows' : List Row} (h : List.Forall₂ RowsAlike rows rows')
    (lines lines' : List String) :
    markup flags token (tableRows lines rows) = markup flags token (tableRows lines' rows') := by
  induction h generalizing lines lines' with
  | nil => rfl
  | cons hrow _ ih =>
    rw [tableRows, tableRows, markup_append, markup_append, markup_row hrow, ih]

theorem markup_table {grid grid' : Grid} (h : List.Forall₂ RowsAlike grid.rows grid'.rows)
    (source source' : String) :
    markup flags token (table grid source) = markup flags token (table grid' source') := by
  have hrows : markup flags token (tableRows (Text.lines source) grid.rows) =
      markup flags token (tableRows (Text.lines source') grid'.rows) :=
    markup_tableRows h _ _
  simp only [table, markup_append, hrows]

theorem markup_debugPanel (trace trace' : String) :
    markup flags token (debugPanel trace) = markup flags token (debugPanel trace') := by
  simp only [debugPanel, markup_cons, markupOf_text]

theorem markup_footer (interpreter interpreter' : String) :
    markup flags token (footer interpreter) = markup flags token (footer interpreter') := by
  simp only [footer, markup_cons, markupOf_text]

theorem markup_panel {panel panel' : Panel} (h : PanelsAlike panel panel') :
    markup flags token (panelPieces panel) = markup flags token (panelPieces panel') := by
  cases h with
  | landing => rfl
  | @trace grid grid' source source' trace trace' interpreter interpreter' rows =>
    simp only [panelPieces, markup_append]
    rw [markup_table rows source source', markup_debugPanel trace trace',
      markup_footer interpreter interpreter']
  | @failure message message' interpreter interpreter' =>
    simp only [panelPieces, markup_append, markup_cons, markupOf_text]
    rw [markup_footer interpreter interpreter']
  | installPrompt => simp only [panelPieces, installPrompt, markup_cons, markupOf_text]

end Pieces

/-- Two pages of one shape have the same markup, whatever the texts on them. -/
theorem markupOf_page {p p' : Preview} (h : Alike p p') (flags : DisplayFlags) (token : String) :
    markupOf (p.page flags token) = markupOf (p'.page flags token) := by
  obtain ⟨hplaced, hplaced'⟩ := h.unplaced
  have hbody : markup flags token p.body = markup flags token p'.body := by
    rw [Preview.body, Preview.body, hplaced, hplaced', h.scrollLine, markup_append, markup_append,
      markup_append, markup_append, markup_panel h.panel]
  rw [Preview.page, Preview.page, markupOf_writePieces, markupOf_writePieces, document, document,
    markup_append, markup_append, markup_append, markup_append, hbody]

theorem alike_ofPanel {panel panel' : Panel} (h : PanelsAlike panel panel') :
    Alike (.ofPanel panel) (.ofPanel panel') :=
  ⟨h, rfl, rfl, rfl⟩

/-- A program that prints markup under a path with quotes, and one that does neither. -/
def hostile : Preview :=
  .ofPanel (.ofTrace "print('<script>')\n" "</td>|\n" "/usr/bin/\"python'")

def harmless : Preview := .ofPanel (.ofTrace "x = y\n" "x = 1|x\n" "python")

theorem markupOf_page_hostile : Alike hostile harmless ∧
    markupOf (hostile.page ⟨true, true⟩ "t") = markupOf (harmless.page ⟨true, true⟩ "t") :=
  have hrows : (Grid.build "print('<script>')\n" "</td>|\n").rows =
      [⟨[⟨1, 0, "</td>"⟩, ⟨1, 1, ""⟩], false⟩] := by decide +kernel
  have hrows' : (Grid.build "x = y\n" "x = 1|x\n").rows =
      [⟨[⟨1, 0, "x = 1"⟩, ⟨1, 1, "x"⟩], false⟩] := by decide +kernel
  have halike : Alike hostile harmless := by
    refine alike_ofPanel (.trace ?_)
    rw [hrows, hrows']
    exact .cons ⟨rfl, .cons ⟨rfl, rfl⟩ (.cons ⟨rfl, rfl⟩ .nil)⟩ .nil
  ⟨halike, markupOf_page halike ⟨true, true⟩ "t"⟩

end TraceView.Proofs.Page
