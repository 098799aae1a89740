import TraceView.Binding.Placement
import TraceView.Grid.Cut
import TraceView.Json.Writer
import TraceView.Page.Script
import TraceView.Page.Table

/-!
# What a preview shows

A preview shows one panel, scrolled to a line, and the variables last placed on it. `page` is the
whole document; which token and which flags it is written with is not part of the preview.
-/

namespace TraceView.Page

open TraceView.Html (Piece DisplayFlags)

inductive Panel where
  | landing
  | trace (grid : Grid) (source trace interpreter : String)
  /-- The tracer could not be run at all. -/
  | failure (message interpreter : String)
  | installPrompt (message : String)

/-- The trace of a source, with the grid that belongs to them. -/
def Panel.ofTrace (source trace interpreter : String) : Panel :=
  .trace (Grid.build source trace) source trace interpreter

structure Preview where
  panel : Panel
  scrollLine : Nat
  placed : Option Binding.Placement

def Preview.ofPanel (panel : Panel) : Preview := ⟨panel, 0, none⟩

def landing : List Piece :=
  [.markup ("<br><p style=\"font-size:14px\">Start typing or make a change and your code will be " ++
    "traced.</p><p style=\"font-size:14px\"><b style=\"color:red\">WARNING:</b> code is run WHILE " ++
    "YOU TYPE. Don't try deleting files or folders!</p><p>Running on every edit can be turned off " ++
    "or delayed in the settings.</p>")]

def panelPieces : Panel → List Piece
  | .landing => landing
  | .trace grid source trace interpreter =>
    table grid source ++ debugPanel trace ++ footer interpreter ++ toggleScript
  | .failure message interpreter =>
    [ .markup ("<div id=\"error\" class=\"infrastructure-error\" " ++
        "style=\"white-space: pre-wrap;\">"),
      .text message, .markup "</div>" ] ++ footer interpreter ++ toggleScript
  | .installPrompt message => installPrompt message

def variablesPieces (placement : Binding.Placement) : List Piece :=
  let json := placement.toJson
  [ .markup "<pre id=\"results-plain\" class=\"vars-plain\">", .text json.writeIndented,
    .markup "</pre><script nonce=\"", .token, .markup "\">window.userVars = ", .data json.write,
    .markup ";</script>" ]

def Preview.body (p : Preview) : List Piece :=
  panelPieces p.panel ++ (p.placed.map variablesPieces).getD [] ++ scrollScript p.scrollLine

/-- The document around a body. -/
def document (body : List Piece) : List Piece :=
  [ .markup (joinLines [
      "<!doctype html>",
      "<html lang=\"en\">",
      "<head>",
      "<meta charset=\"utf-8\">",
      ("<meta http-equiv=\"Content-Security-Policy\" content=\"default-src 'none'; img-src https:; " ++
        "script-src 'nonce-")]),
    .token,
    .markup (joinLines [
      "'; style-src 'unsafe-inline';\">",
      "<title>live trace</title>",
      "</head>",
      "<body>",
      ""]) ] ++ body ++
  [ .markup "\n<div id=\"", .token,
    .markup (joinLines ["\" style=\"display:none\"></div>", "</body>", "</html>"]) ]

def Preview.page (p : Preview) (flags : DisplayFlags) (token : String) : String :=
  Html.writePieces flags token (document p.body)

/-- The length of a token; its characters are ASCII letters and digits. -/
def tokenLength : Nat := 32

def isToken (s : String) : Bool :=
  s.toList.length = tokenLength && s.toList.all Char.isAlphanum

/-- A token for each number. Numbers below `10 ^ 32` have different tokens. -/
def numberedToken (n : Nat) : String :=
  let ds := Nat.toDigits 10 n
  String.ofList ((List.replicate (tokenLength - ds.length) '0' ++ ds).take tokenLength)

end TraceView.Page
