/-!
# Lines of a text

A newline ends a line, together with one carriage return right before it. A carriage return
anywhere else is an ordinary character, also at the very end of the text.
-/

namespace TraceView.Text

/-- The lines of the text read so far, from its end, and whether a newline comes next. -/
structure LineCut where
  lines : List (List Char)
  atBreak : Bool

/-- Writes a character at the start of the first line. -/
def startWith (c : Char) : List (List Char) → List (List Char)
  | [] => [[c]]
  | line :: rest => (c :: line) :: rest

def LineCut.push (c : Char) (cut : LineCut) : LineCut :=
  if c = '\n' then ⟨[] :: cut.lines, true⟩
  else if c = '\r' && cut.atBreak then ⟨cut.lines, false⟩
  else ⟨startWith c cut.lines, false⟩

def cutLines (cs : List Char) : LineCut :=
  cs.foldr LineCut.push ⟨[], false⟩

def lineChars (cs : List Char) : List (List Char) :=
  (cutLines cs).lines

def lines (text : String) : List String :=
  (lineChars text.toList).map String.ofList

theorem lineChars_nil : lineChars [] = [] := rfl

theorem lineChars_newline (cs : List Char) : lineChars ('\n' :: cs) = [] :: lineChars cs := rfl

theorem lineChars_cons {c : Char} (hn : c ≠ '\n') (hr : c ≠ '\r') (cs : List Char) :
    lineChars (c :: cs) = startWith c (lineChars cs) := by
  simp [lineChars, cutLines, LineCut.push, hn, hr]

end TraceView.Text
