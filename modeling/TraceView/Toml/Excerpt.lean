import TraceView.Toml.Scan

/-!
# Showing a part of a document

A part is given by the text before it, its own text and what follows. It is shown with its line,
underlined as far as the line goes.
-/

namespace TraceView.Toml

structure Excerpt where
  before : List Char
  part : List Char
  after : List Char
  deriving DecidableEq, Repr

namespace Excerpt

/-- The part of a document with that span. -/
def ofSpan (document : String) (span : Span) : Excerpt :=
  let cs := document.toList
  let start := cs.drop (cs.length - span.start)
  ⟨cs.take (cs.length - span.start), start.take (span.start - span.stop),
    start.drop (span.start - span.stop)⟩

def isNotBreak (c : Char) : Bool := c ≠ '\n'

def lineNumber (e : Excerpt) : Nat := e.before.count '\n' + 1

/-- Characters of the first line before the part. -/
def lead (e : Excerpt) : List Char := (e.before.reverse.takeWhile isNotBreak).reverse

def line (e : Excerpt) : List Char :=
  e.lead ++ (e.part ++ e.after).takeWhile isNotBreak

def byteCount (cs : List Char) : Nat := (String.ofList cs).utf8ByteSize

/-- How many characters are underlined: as many as the part has bytes, within the line. -/
def underlined (e : Excerpt) : Nat :=
  max 1 (min (byteCount e.part) (byteCount e.line - e.lead.length))

def blanks (n : Nat) : String := String.ofList (List.replicate n ' ')

def text (e : Excerpt) : String :=
  let number := toString e.lineNumber
  let gutter := blanks (number.length + 1) ++ "|"
  "TOML parse error at line " ++ number ++ ", column " ++ toString (e.lead.length + 1) ++ "\n" ++
    gutter ++ "\n" ++
    number ++ " | " ++ String.ofList e.line ++ "\n" ++
    gutter ++ blanks (e.lead.length + 1) ++ String.ofList (List.replicate e.underlined '^') ++ "\n"

end Excerpt

end TraceView.Toml
