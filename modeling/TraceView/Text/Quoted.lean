import TraceView.Text.Numeral
import TraceView.Text.Unprinted

/-!
# Quoted texts

How a text is shown inside a diagnostic: in double quotes, with short escapes for the usual
controls and a number in braces for every character that would not show.
-/

namespace TraceView.Text

/-- Which quotes get a backslash. A path also guards the single one. -/
structure Quoting where
  guardSingle : Bool

def Quoting.plain : Quoting := ⟨false⟩

def Quoting.path : Quoting := ⟨true⟩

def numbered (c : Char) : List Char :=
  ['\\', 'u', '{'] ++ hexDigits c.toNat ++ ['}']

def Quoting.charText (q : Quoting) (c : Char) : List Char :=
  match c with
  | '\x00' => ['\\', '0']
  | '\t' => ['\\', 't']
  | '\r' => ['\\', 'r']
  | '\n' => ['\\', 'n']
  | '\\' => ['\\', '\\']
  | '"' => ['\\', '"']
  | '\'' => if q.guardSingle then ['\\', '\''] else ['\'']
  | c => if isUnprinted c then numbered c else [c]

def Quoting.text (q : Quoting) (s : String) : String :=
  String.ofList (['"'] ++ s.toList.flatMap q.charText ++ ['"'])

def quoted (s : String) : String :=
  Quoting.plain.text s

def quotedPath (s : String) : String :=
  Quoting.path.text s

end TraceView.Text
