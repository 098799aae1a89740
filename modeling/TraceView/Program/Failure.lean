import TraceView.Fault

/-!
# How a program fails

A failure has a message and the causes behind it. Several causes are numbered; their further lines
are set below the text of the first.
-/

namespace TraceView.Program

structure Failure where
  message : String
  causes : List String
  deriving DecidableEq, Repr

def pieces : List Char → List (List Char)
  | [] => [[]]
  | c :: cs =>
    match pieces cs with
    | [] => [[c]]
    | piece :: rest => if c = '\n' then [] :: piece :: rest else (c :: piece) :: rest

/-- A text whose first line follows `head` and whose other lines are set below it. -/
def hanging (head : String) (text : String) : String :=
  let margin := String.ofList ('\n' :: List.replicate head.length ' ')
  head ++ String.intercalate margin ((pieces text.toList).map String.ofList)

def numbered (n : Nat) : List String → List String
  | [] => []
  | c :: rest => hanging ("    " ++ toString n ++ ": ") c :: numbered (n + 1) rest

def Failure.text (f : Failure) : String :=
  "Error: " ++ f.message ++
    match f.causes with
    | [] => ""
    | [c] => "\n\nCaused by:\n" ++ hanging "    " c
    | cs => "\n\nCaused by:\n" ++ String.intercalate "\n" (numbered 0 cs)

def Failure.ofFault (context : String) (fault : Fault) : Failure := ⟨context, [fault.message]⟩

end TraceView.Program
