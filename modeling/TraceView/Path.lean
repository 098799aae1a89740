/-!
# File paths

A path is kept as it was written. Two spellings name the same path when they have the same
components: doubled and trailing separators and inner `.` segments do not count, a leading `./`
and every `..` do. No file system is consulted.
-/

namespace TraceView

abbrev Path := String

namespace Path

/-- The segments between separators. -/
def segments : List Char → List (List Char)
  | [] => [[]]
  | c :: cs =>
    if c = '/' then [] :: segments cs
    else
      match segments cs with
      | [] => [[c]]
      | s :: rest => (c :: s) :: rest

def isAbsoluteChars (cs : List Char) : Bool :=
  cs.head? == some '/'

def isAbsolute (p : Path) : Bool :=
  isAbsoluteChars p.toList

/-- The named segments; a leading `.` of a relative path is one of them. -/
def names (p : Path) : List String :=
  let segs := segments p.toList
  let kept := (segs.drop 1).filter fun s => s ≠ [] && s ≠ ['.']
  let first := (segs.take 1).filter (· ≠ [])
  (first ++ kept).map String.ofList

/-- Number of components, the root included. -/
def depth (p : Path) : Nat :=
  (names p).length + if isAbsolute p then 1 else 0

/-- One spelling for all paths with the same components. -/
def canonical (p : Path) : Path :=
  (if isAbsolute p then "/" else "") ++ String.intercalate "/" (names p)

def same (p q : Path) : Bool :=
  canonical p == canonical q

/-- On the reversed spelling: without trailing separators and trailing `.` segments. -/
def stripEnd : List Char → List Char
  | '/' :: c :: rest => stripEnd (c :: rest)
  | '.' :: '/' :: rest => stripEnd ('/' :: rest)
  | cs => cs

/-- Everything before the last component, as it was written. -/
def parent? (p : Path) : Option Path :=
  match stripEnd p.toList.reverse with
  | [] => none
  | ['/'] => none
  | cs => some (String.ofList (stripEnd (cs.dropWhile (· ≠ '/'))).reverse)

/-- The last component, unless it is the root, `.` or `..`. -/
def fileName? (p : Path) : Option String :=
  let last := ((stripEnd p.toList.reverse).takeWhile (· ≠ '/')).reverse
  if last = [] ∨ last = ['.'] ∨ last = ['.', '.'] then none else some (String.ofList last)

/-- An absolute second path replaces the first. -/
def join (dir name : Path) : Path :=
  if isAbsolute name ∨ dir = "" then name
  else if dir.toList.getLast? = some '/' then dir ++ name
  else dir ++ "/" ++ name

end Path

end TraceView
