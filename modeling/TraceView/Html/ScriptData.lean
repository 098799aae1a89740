/-!
# Data inside a script element

A `</` before the word `script`, in letters of either case, gets a backslash between its two
characters. The long s counts as a case of `s`. Nothing is done about `<!--`.
-/

namespace TraceView.Html

/-- Letters that fold to the same one. -/
def foldScriptChar (c : Char) : Char :=
  if c = 'ſ' then 's' else c.toLower

def isScriptWord (cs : List Char) : Bool :=
  ((cs.take 6).map foldScriptChar) = ['s', 'c', 'r', 'i', 'p', 't']

def guardScriptChars : List Char → List Char
  | '<' :: '/' :: cs =>
    if isScriptWord cs then '<' :: '\\' :: '/' :: guardScriptChars cs
    else '<' :: '/' :: guardScriptChars cs
  | c :: cs => c :: guardScriptChars cs
  | [] => []

def guardScript (s : String) : String :=
  String.ofList (guardScriptChars s.toList)

end TraceView.Html
