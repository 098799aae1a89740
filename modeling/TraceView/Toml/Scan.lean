/-!
# Pieces of TOML text

A scan takes a piece off the front of a text and returns what follows, or nothing if the piece is
not there. So a place in a document is known by what is left of it there.
-/

namespace TraceView.Toml

abbrev Scan (α : Type) := List Char → Option (α × List Char)

/-- A part of a document, by how many characters are left at its start and at its end. -/
structure Span where
  start : Nat
  stop : Nat
  deriving DecidableEq, Repr

/-- The part between two places, each given by what follows it. -/
def Span.between (start stop : List Char) : Span := ⟨start.length, stop.length⟩

/-- From the start of one part to the end of another. -/
def Span.to (s t : Span) : Span := ⟨s.start, t.stop⟩

/-- A part of a key, with or without quotes, as it is written in a document. -/
structure Key where
  name : String
  span : Span
  deriving DecidableEq, Repr

def isSpace (c : Char) : Bool := c = ' ' || c = '\t'

def skipSpace (cs : List Char) : List Char := cs.dropWhile isSpace

/-- May stand in comments and one-line strings, quotes and backslashes apart. -/
def isTextChar (c : Char) : Bool :=
  c = '\t' || (0x20 ≤ c.toNat && c.toNat ≠ 0x7F)

/-- What follows a newline of either kind. -/
def newline? : List Char → Option (List Char)
  | '\n' :: cs => some cs
  | '\r' :: '\n' :: cs => some cs
  | _ => none

def skipComment : List Char → List Char
  | '#' :: cs => cs.dropWhile isTextChar
  | cs => cs

/-- Blanks, a comment and the end of the line or of the text. -/
def endOfLine? (cs : List Char) : Option (List Char) :=
  match skipComment (skipSpace cs) with
  | [] => some []
  | cs => newline? cs

def char? (c : Char) : List Char → Option (List Char)
  | d :: cs => if c = d then some cs else none
  | [] => none

/-- Blanks, newlines and comments, as between the items of an array. At most `bound` lines. -/
def skipLines : (bound : Nat) → List Char → List Char
  | 0, cs => cs
  | bound + 1, cs =>
    let cs := skipComment (skipSpace cs)
    match newline? cs with
    | some rest => skipLines bound rest
    | none => cs

def skipGap (cs : List Char) : List Char :=
  skipLines (cs.length + 1) cs

/-- A run of characters that are not separated by more than single underscores, which are left
out; it starts and ends with such a character. -/
def grouped? (p : Char → Bool) : Scan (List Char)
  | [] => none
  | c :: cs => if p c then some (go [c] cs) else none
where
  go (acc : List Char) : List Char → List Char × List Char
    | [] => (acc.reverse, [])
    | '_' :: d :: cs => if p d then go (d :: acc) cs else (acc.reverse, '_' :: d :: cs)
    | d :: cs => if p d then go (d :: acc) cs else (acc.reverse, d :: cs)

end TraceView.Toml
