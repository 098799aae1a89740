import TraceView.Html.Escape
import TraceView.Html.ScriptData

/-!
# Pieces of a page

A page is a list of pieces of four kinds, so it is visible in it which characters are fixed markup,
which come from the user and which depend on the token or on what is shown. Only `Piece.write`
makes text of them.
-/

namespace TraceView.Html

/-- What the reader of a page may show or hide. -/
inductive Toggle where
  | source
  | debug
  deriving DecidableEq, Repr

structure DisplayFlags where
  showSource : Bool
  showDebug : Bool
  deriving DecidableEq, Repr

def DisplayFlags.get (flags : DisplayFlags) : Toggle → Bool
  | .source => flags.showSource
  | .debug => flags.showDebug

inductive Piece where
  | markup (s : String)
  /-- Text of the user, escaped. -/
  | text (s : String)
  /-- Data inside a script element. -/
  | data (s : String)
  /-- The token that marks the page's own scripts. -/
  | token
  | shown (toggle : Toggle) (on off : String)
  deriving DecidableEq, Repr

def Piece.write (flags : DisplayFlags) (token : String) : Piece → String
  | .markup s => s
  | .text s => escape s
  | .data s => guardScript s
  | .token => token
  | .shown toggle on off => if flags.get toggle then on else off

def writePieces (flags : DisplayFlags) (token : String) (pieces : List Piece) : String :=
  String.join (pieces.map (Piece.write flags token))

end TraceView.Html
