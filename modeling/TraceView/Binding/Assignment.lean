import TraceView.Text.Blank

/-!
# Names that a line assigns

A name is assigned when an identifier is followed by blanks, at most one subscript in brackets and
an assignment operator that is not the start of a comparison. The scan goes on after a match; after
a comparison it goes on one character past the start of the identifier.
-/

namespace TraceView.Binding

def isIdentStart (c : Char) : Bool :=
  c.isAlpha || c = '_'

def isIdentChar (c : Char) : Bool :=
  c.isAlphanum || c = '_'

def skipBlanks (cs : List Char) : List Char :=
  cs.dropWhile Text.isBlank

/-- Assignment operators. None but the last is a suffix of another that starts earlier. -/
def operators : List (List Char) :=
  [['+', '='], ['-', '='], ['*', '*', '='], ['*', '='], ['/', '/', '='], ['/', '='], ['%', '='],
    ['=']]

/-- What follows an operator at the start of `cs`. -/
def afterOperator? (cs : List Char) : Option (List Char) :=
  operators.findSome? fun op => if op.isPrefixOf cs then some (cs.drop op.length) else none

/-- What follows a subscript and the blanks after it, if a subscript opens here and is closed. -/
def afterSubscript (cs : List Char) : List Char :=
  match cs with
  | '[' :: rest =>
    match rest.dropWhile (· ≠ ']') with
    | _ :: more => skipBlanks more
    | [] => cs
  | _ => cs

structure Assignment where
  name : List Char
  /-- What follows the operator. -/
  rest : List Char

/-- The assignment that starts with the identifier at the start of `cs`. -/
def assignment? (cs : List Char) : Option Assignment :=
  match cs with
  | [] => none
  | c :: _ =>
    if isIdentStart c then
      (afterOperator? (afterSubscript (skipBlanks (cs.dropWhile isIdentChar)))).map
        (⟨cs.takeWhile isIdentChar, ·⟩)
    else none

/-- Is the operator only the first half of `==`? -/
def Assignment.compares (a : Assignment) : Bool :=
  a.rest.head? == some '='

/-- `skip` counts the characters that a match still covers. -/
def assignedFrom : (skip : Nat) → List Char → List (List Char)
  | _, [] => []
  | skip + 1, _ :: cs => assignedFrom skip cs
  | 0, c :: cs =>
    match assignment? (c :: cs) with
    | none => assignedFrom 0 cs
    | some a =>
      if a.compares then assignedFrom 0 cs
      else a.name :: assignedFrom (cs.length - a.rest.length) cs

def assignedNames (line : String) : List String :=
  (assignedFrom 0 line.toList).map String.ofList

end TraceView.Binding
