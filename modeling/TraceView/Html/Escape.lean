import TraceView.Text.Occurrence

/-!
# Text in HTML

Five characters are written as entities, all others as they are. They are replaced one after
another; the ampersand comes first, or it would be escaped again in the entities of the others.
`unescape` reads the five entities back.
-/

namespace TraceView.Html

/-- The characters that have an entity, in the order in which they are replaced. -/
def entities : List (Char × String) :=
  [('&', "&amp;"), ('<', "&lt;"), ('>', "&gt;"), ('"', "&quot;"), ('\'', "&#39;")]

def escape (s : String) : String :=
  entities.foldl (fun s e => Text.replace s (String.singleton e.1) e.2) s

def entity (c : Char) : List Char :=
  match c with
  | '&' => ['&', 'a', 'm', 'p', ';']
  | '<' => ['&', 'l', 't', ';']
  | '>' => ['&', 'g', 't', ';']
  | '"' => ['&', 'q', 'u', 'o', 't', ';']
  | '\'' => ['&', '#', '3', '9', ';']
  | c => [c]

/-- All characters at once. -/
def escapeChars (cs : List Char) : List Char :=
  cs.flatMap entity

/-- Any other `&` stands for itself. -/
def unescapeChars : List Char → List Char
  | '&' :: 'a' :: 'm' :: 'p' :: ';' :: cs => '&' :: unescapeChars cs
  | '&' :: 'l' :: 't' :: ';' :: cs => '<' :: unescapeChars cs
  | '&' :: 'g' :: 't' :: ';' :: cs => '>' :: unescapeChars cs
  | '&' :: 'q' :: 'u' :: 'o' :: 't' :: ';' :: cs => '"' :: unescapeChars cs
  | '&' :: '#' :: '3' :: '9' :: ';' :: cs => '\'' :: unescapeChars cs
  | c :: cs => c :: unescapeChars cs
  | [] => []

def unescape (s : String) : String :=
  String.ofList (unescapeChars s.toList)

end TraceView.Html
