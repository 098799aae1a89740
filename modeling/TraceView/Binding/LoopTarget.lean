import TraceView.Binding.Assignment
import TraceView.Text.WordChar

/-!
# Names that a loop header binds

The word `for` is followed by blanks and identifiers with commas between them. Words end where word
characters of any script end, identifiers are ASCII: a last identifier that runs into a letter of
another script is not a target.
-/

namespace TraceView.Binding

/-- The identifier at the start of `cs` and what follows it. -/
def identifier? (cs : List Char) : Option (List Char × List Char) :=
  match cs with
  | [] => none
  | c :: _ =>
    if isIdentStart c then some (cs.takeWhile isIdentChar, cs.dropWhile isIdentChar) else none

def atWordEnd (cs : List Char) : Bool :=
  match cs with
  | [] => true
  | c :: _ => !Text.isWordChar c

/-- What follows a comma with blanks on both sides. -/
def afterComma? (cs : List Char) : Option (List Char) :=
  match skipBlanks cs with
  | ',' :: rest => some (skipBlanks rest)
  | _ => none

/-- Targets with what follows them; the longest list that ends where a word ends. At most `bound`
identifiers are read. -/
def targetsFrom : (bound : Nat) → List Char → Option (List (List Char) × List Char)
  | 0, _ => none
  | bound + 1, cs =>
    match identifier? cs with
    | none => none
    | some (name, rest) =>
      match (afterComma? rest).bind (targetsFrom bound) with
      | some (names, rest) => some (name :: names, rest)
      | none => if atWordEnd rest then some ([name], rest) else none

/-- The targets of a loop header that starts here. -/
def header? (cs : List Char) : Option (List (List Char) × List Char) :=
  match cs with
  | 'f' :: 'o' :: 'r' :: c :: rest =>
    if Text.isBlank c then targetsFrom rest.length (skipBlanks rest) else none
  | _ => none

/-- `inWord` tells whether the character before is a word character. -/
def loopTargetsFrom : (skip : Nat) → (inWord : Bool) → List Char → List (List Char)
  | _, _, [] => []
  | skip + 1, _, c :: cs => loopTargetsFrom skip (Text.isWordChar c) cs
  | 0, inWord, c :: cs =>
    match if inWord then none else header? (c :: cs) with
    | none => loopTargetsFrom 0 (Text.isWordChar c) cs
    | some (names, rest) =>
      names ++ loopTargetsFrom (cs.length - rest.length) (Text.isWordChar c) cs

def loopTargets (line : String) : List String :=
  (loopTargetsFrom 0 false line.toList).map String.ofList

end TraceView.Binding
