import TraceView.Log
import TraceView.Log.Pattern
import TraceView.Text.Alphanumeric
import TraceView.Text.Blank

/-!
# Directives of a log filter

`part[span{name=value}]=level`, where everything but one of `part`, the brackets and `level` may be
missing. The blanks around a directive do not count where its pieces are told apart, but the pieces
are cut out of the text with the blanks; so a blank in front spoils most directives.
-/

namespace TraceView.Log

/-- The least severe level that is written; `off` writes none. -/
inductive Threshold where
  | off
  | error
  | warn
  | info
  | debug
  | trace
  deriving DecidableEq, Repr

def Threshold.names : List (String × Threshold) :=
  [("off", .off), ("error", .error), ("warn", .warn), ("info", .info), ("debug", .debug),
    ("trace", .trace)]

/-- A name in letters of either case, or the place of a threshold among all. -/
def threshold? (s : String) : Option Threshold :=
  match Text.signedWordValue? s.toList with
  | some n => (Threshold.names[n]?).map (·.2)
  | none =>
    (Threshold.names.find? (·.1 = String.ofList (s.toList.map Char.toLower))).map (·.2)

structure Directive where
  /-- The part of the program that is covered; empty for every part. -/
  part : String
  /-- Does it ask for a span? -/
  inSpan : Bool
  /-- The name of a value that lines must have. -/
  field : Option String
  /-- Does it ask for a certain value? -/
  ofValue : Bool
  threshold : Threshold
  deriving DecidableEq, Repr

/-- Covers everything. -/
def Directive.all (t : Threshold) : Directive := ⟨"", false, none, false, t⟩

/-- Which piece of a directive is being read, and its characters in reverse. -/
inductive Piece where
  | start
  | levelOrPart (text : List Char)
  | span (text : List Char)
  | field (text : List Char)
  | afterField
  | afterSpan
  | level (text : List Char)
  deriving DecidableEq, Repr

structure DirectiveDraft where
  directive : Directive
  piece : Piece
  deriving DecidableEq, Repr

/-- Without a level a directive lets everything through. -/
def DirectiveDraft.initial : DirectiveDraft := ⟨.all .trace, .start⟩

def startsPart (c : Char) : Bool :=
  c = '-' || c = ':' || c = '_' || Text.isAlphanumeric c

/-- A name with or without a value; nothing at all is an error, and so is a value that is neither a
number nor a pattern. A second equals sign ends the value. -/
def Directive.setField? (d : Directive) (text : List Char) : Option Directive :=
  let name := text.takeWhile (· ≠ '=')
  let value := (text.drop (name.length + 1)).takeWhile (· ≠ '=')
  if text = [] ∨ ¬(isNumber value || isPattern value) then none
  else some { d with field := some (String.ofList name), ofValue := text.contains '=' }

/-- The next character, as it counts and as it is kept. -/
def DirectiveDraft.push (r : DirectiveDraft) (c kept : Char) : Option DirectiveDraft :=
  let part (cs : List Char) : Directive :=
    { r.directive with part := String.ofList cs.reverse }
  match r.piece with
  | .start =>
    if c = '[' then some { r with piece := .span [] }
    else if startsPart c then some { r with piece := .levelOrPart [kept] }
    else none
  | .levelOrPart cs =>
    if c = '=' then some ⟨part cs, .level []⟩
    else if c = '[' then some ⟨part cs, .span []⟩
    else some { r with piece := .levelOrPart (kept :: cs) }
  | .span cs =>
    if c = ']' then some ⟨{ r.directive with inSpan := true }, .afterSpan⟩
    else if c = '{' then some ⟨{ r.directive with inSpan := !cs.isEmpty }, .field []⟩
    else some { r with piece := .span (kept :: cs) }
  | .field cs =>
    if c = '}' then (r.directive.setField? cs.reverse).map (⟨·, .afterField⟩)
    else some { r with piece := .field (kept :: cs) }
  | .afterField => if c = ']' then some { r with piece := .afterSpan } else none
  | .afterSpan => if c = '=' then some { r with piece := .level [] } else none
  | .level cs => some { r with piece := .level (kept :: cs) }

/-- At the end `rest` is what was not counted. A text that is no level is a part. -/
def DirectiveDraft.finish? (r : DirectiveDraft) (rest : List Char) : Option Directive :=
  let text (cs : List Char) := String.ofList (cs.reverse ++ rest)
  match r.piece with
  | .levelOrPart cs =>
    match threshold? (text cs) with
    | some t => some { r.directive with threshold := t }
    | none => some { r.directive with part := text cs }
  | .level cs =>
    if text cs = "" then some r.directive
    else (threshold? (text cs)).map fun t => { r.directive with threshold := t }
  | .afterSpan => some r.directive
  | .start | .span _ | .field _ | .afterField => none

def Directive.read? (cs : List Char) : Option Directive := do
  let counted := Text.trimChars cs
  let r ← (counted.zip cs).foldlM (fun (r : DirectiveDraft) c => r.push c.1 c.2) .initial
  r.finish? (cs.drop counted.length)

end TraceView.Log
