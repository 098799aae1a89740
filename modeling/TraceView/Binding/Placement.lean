import TraceView.Binding.FirstLine
import TraceView.Json.Value
import TraceView.Text.DecimalDigit
import TraceView.Text.Numeral

/-!
# Variables placed on lines

A variable whose key says `line N` goes to that line, counted from one, and is labelled with the
rest of its key; any other goes to the line that first binds its name.
-/

namespace TraceView.Binding

/-- A `line N` fragment: the digits, and the key around the fragment. -/
structure LineMark where
  before : List Char
  digits : List Char
  rest : List Char

/-- `line` in letters of either case. -/
def afterLineWord? (cs : List Char) : Option (List Char) :=
  if ((cs.take 4).map Char.toLower) = ['l', 'i', 'n', 'e'] then some (cs.drop 4) else none

/-- A fragment that starts here: blanks are wanted after the word, digits after the blanks. -/
def markHere? (cs : List Char) : Option LineMark := do
  let more ← afterLineWord? cs
  if (more.head?.map Text.isBlank).getD false then
    let tail := skipBlanks more
    let digits := tail.takeWhile Text.isDecimalDigit
    if digits = [] then none else some ⟨[], digits, tail.dropWhile Text.isDecimalDigit⟩
  else none

/-- The first fragment of a key. -/
def mark? : List Char → Option LineMark
  | [] => none
  | c :: cs =>
    match markHere? (c :: cs) with
    | some m => some m
    | none => (mark? cs).map fun m => { m with before := c :: m.before }

/-- Digits of other scripts, and numbers of more than 64 bits, name the first line. -/
def LineMark.line (m : LineMark) : Nat :=
  (Text.wordValue? m.digits).getD 0 - 1

def LineMark.label (m : LineMark) (key : String) : String :=
  let label := Text.trimChars (m.before ++ m.rest)
  if label = [] then key else String.ofList label

structure Placement where
  lines : Keyed Nat (List (String × Json))
  lastLine : Nat

namespace Placement

/-- Line and label of a variable. -/
def spot (m : FirstLines) (key : String) : Nat × String :=
  match mark? key.toList with
  | some mark => (mark.line, mark.label key)
  | none => (m.lineFor key, key)

def at? (p : Placement) (line : Nat) : List (String × Json) :=
  (Keyed.get? p.lines line).getD []

def add (m : FirstLines) (p : Placement) (e : String × Json) : Placement :=
  let (line, label) := spot m e.1
  { p with lines := Keyed.insert p.lines line (p.at? line ++ [(label, e.2)]) }

/-- Places the variables in the order given. -/
def place (text : String) (values : List (String × Json)) : Placement :=
  let m := FirstLines.ofText text
  values.foldl (add m) ⟨[], m.lastLine⟩

/-- One list of one-entry objects per line, and the number of the last line. -/
def toJson (p : Placement) : Json :=
  Json.ofFields (p.lines.map (fun e => (toString e.1,
    .array (e.2.map fun v => .object [v]))) ++ [("nlines", Json.nat p.lastLine)])

end Placement

end TraceView.Binding
