import TraceView.Html.Piece
import TraceView.Page.Palette
import TraceView.Text.Lines

/-!
# The trace as a table

One table row per grid row: the source line, which may be hidden, then the cells.
-/

namespace TraceView.Page

open TraceView.Html (Piece Toggle)

def sourceStyle : String :=
  "white-space: pre; border-right: 1px solid #ccc; border-bottom: 1px solid #ccc; padding: 0; " ++
    "vertical-align: top; background-color: #f5f5f5; display: "

def cellStyle : String :=
  "white-space: pre; vertical-align: top; min-width: 20px; background-clip: border-box; " ++
    "padding: 0; border: none;"

def cellPieces (row : Row) (cell : Cell) : List Piece :=
  [ .markup ("<td class=\"trace-col\" colspan=\"" ++ toString cell.span ++ "\" data-column=\"" ++
      toString cell.column ++ "\" style=\"" ++ cellStyle ++ " background-color: " ++
      cellColor row cell ++ ";\"><div style=\"padding: 5px\">"),
    if cell.text.isEmpty then .markup "&nbsp;" else .text cell.text,
    .markup "</div></td>" ]

def rowPieces (sourceLine : String) (row : Row) : List Piece :=
  [ .markup ("<tr><td class=\"code-col\" style=\"" ++ sourceStyle),
    .shown .source "table-cell" "none",
    .markup "; background-clip: border-box;\"><div style=\"padding: 5px\">",
    .text sourceLine,
    .markup "</div></td>" ] ++
  row.cells.flatMap (cellPieces row) ++ [.markup "</tr>"]

/-- Rows beyond the last source line have an empty source cell. -/
def tableRows (sourceLines : List String) : List Row → List Piece
  | [] => []
  | row :: rest => rowPieces (sourceLines.headD "") row ++ tableRows (sourceLines.drop 1) rest

def table (grid : Grid) (source : String) : List Piece :=
  [.markup ("<table class=\"trace-table\" style=\"width:100%; border-collapse: collapse; " ++
    "border: 1px solid #ccc;\">")] ++
  tableRows (Text.lines source) grid.rows ++ [.markup "</table>"]

def debugPanel (trace : String) : List Piece :=
  [ .markup "<div id=\"debug-output\" style=\"display: ",
    .shown .debug "block" "none",
    .markup ("; margin-top: 20px; padding: 10px; background-color: #eee; " ++
      "border: 1px solid #999; white-space: pre-wrap; font-family: monospace;\">" ++
      "<h3>Raw Trace Output:</h3>"),
    .text trace,
    .markup "</div>" ]

def footer (interpreter : String) : List Piece :=
  [ .markup ("<div style=\"margin-top: 5px; padding: 5px 5px 0 5px; background-color: #f0f0f0; " ++
      "border-top: 1px solid #ccc; font-size: 12px; white-space: normal;\">" ++
      "<div style=\"margin-bottom: 10px;\"><strong>Python Path: "),
    .text interpreter,
    .markup ("</strong></div><div style=\"display: flex; gap: 10px; margin-bottom: 0;\">" ++
      "<label style=\"cursor: pointer;\"><input type=\"checkbox\" id=\"cb-show-debug\" "),
    .shown .debug "checked" "",
    .markup (" style=\"vertical-align: middle;\"> Debug Mode</label>" ++
      "<label style=\"cursor: pointer;\"><input type=\"checkbox\" id=\"cb-show-source\" "),
    .shown .source "checked" "",
    .markup " style=\"vertical-align: middle;\"> Show Source Code</label></div></div>" ]

end TraceView.Page
