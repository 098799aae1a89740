/-!
# Names in messages and listings

A name is written so that it can be told apart from the text around it: plainly or in the quotes of a
command line, always in quotes, or as the value in an assignment.
-/

namespace TraceView.Shell

def isPrinted (c : Char) : Bool := ' ' ≤ c && c ≤ '~'

def letterFor? (c : Char) : Option Char :=
  match c with
  | '\x07' => some 'a'
  | '\x08' => some 'b'
  | '\t' => some 't'
  | '\n' => some 'n'
  | '\x0b' => some 'v'
  | '\x0c' => some 'f'
  | '\r' => some 'r'
  | _ => none

/-- A character that is not printed, as an escape of a letter or of three octal digits. -/
def escaped (c : Char) : List Char :=
  match letterFor? c with
  | some l => ['\\', l]
  | none =>
    let ds := Nat.toDigits 8 c.toNat
    '\\' :: List.replicate (3 - ds.length) '0' ++ ds

/-- Characters that a double quote does not protect. -/
def isActive (c : Char) : Bool := "!\"$&()*;<=>?[\\^`|".toList.contains c

def needsQuotes (cs : List Char) : Bool :=
  match cs with
  | [] => true
  | ['\x7b'] | ['\x7d'] => true
  | c :: _ =>
    c = '#' || c = '~' ||
      cs.any fun c => !isPrinted c || isActive c || c = ' ' || c = ':' || c = '\''

/-- Between single quotes; `escaping` says whether an escape came before. -/
def singleQuotedFrom (escaping : Bool) : List Char → List Char
  | [] => ['\'']
  | c :: cs =>
    if !isPrinted c then
      (if escaping then [] else ['\'', '$', '\'']) ++ escaped c ++ singleQuotedFrom true cs
    else
      (if escaping then ['\'', '\''] else []) ++
        (if c = '\'' then ['\'', '\\', '\'', '\''] else [c]) ++ singleQuotedFrom false cs

/-- As a word of a command line. -/
def wordQuoted (s : String) : String :=
  let cs := s.toList
  String.ofList
    (if !needsQuotes cs then cs
    else if cs.contains '\'' && cs.all fun c => isPrinted c && !isActive c && c ≠ ':' then
      '"' :: cs ++ ['"']
    else '\'' :: singleQuotedFrom false cs)

/-- Always in quotes. -/
def messageQuoted (s : String) : String :=
  String.ofList ('\'' :: (s.toList.flatMap fun c =>
    if c = '\'' || c = '\\' then ['\\', c] else if isPrinted c then [c] else escaped c) ++ ['\''])

/-- As the value in an assignment: runs of single quotes stand in double quotes. -/
def valueFrom : List Char → List Char
  | [] => ['\'']
  | '\'' :: cs =>
    let run := cs.takeWhile (· = '\'')
    ['\'', '"', '\''] ++ run ++ ['"'] ++
      (if (cs.drop run.length).isEmpty then [] else '\'' :: valueFrom (cs.drop run.length))
  | c :: cs => c :: valueFrom cs
  termination_by cs => cs.length
  decreasing_by
    · simp only [List.length_drop, List.length_cons]
      omega
    · simp

def valueQuoted (s : String) : String := String.ofList ('\'' :: valueFrom s.toList)

end TraceView.Shell
