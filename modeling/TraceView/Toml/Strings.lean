import TraceView.Text.Numeral
import TraceView.Toml.Scan

/-!
# TOML strings and keys

Four kinds of strings: with escapes or literal, on one line or on several. A newline of either kind
inside a string is kept as a single line feed.
-/

namespace TraceView.Toml

/-- The character with that code point, unless it is a surrogate or too large. -/
def scalar? (n : Nat) : Option Char :=
  if n.isValidChar then some (Char.ofNat n) else none

def hexScalar? (ds : List Char) : Option Char :=
  ds.foldlM (fun n d => (Text.hexValue? d).map (n * 16 + ·)) 0 >>= scalar?

def shortEscape? : Char → Option Char
  | 'b' => some '\x08'
  | 't' => some '\t'
  | 'n' => some '\n'
  | 'f' => some '\x0c'
  | 'r' => some '\r'
  | '"' => some '"'
  | '\\' => some '\\'
  | _ => none

/-- What follows a backslash. -/
def escape? : Scan Char
  | 'u' :: cs => if cs.length < 4 then none else (hexScalar? (cs.take 4)).map (·, cs.drop 4)
  | 'U' :: cs => if cs.length < 8 then none else (hexScalar? (cs.take 8)).map (·, cs.drop 8)
  | c :: cs => (shortEscape? c).map (·, cs)
  | [] => none

def reading (acc : List Char) (rest : List Char) : String × List Char :=
  (String.ofList acc.reverse, rest)

/-- The rest of a string with escapes, after its first quote. At most `bound` characters are
looked at, here and below. -/
def basicFrom (acc : List Char) : (bound : Nat) → Scan String
  | 0, _ => none
  | bound + 1, cs =>
    match cs with
    | '"' :: cs => some (reading acc cs)
    | '\\' :: cs => do
      let (c, cs) ← escape? cs
      basicFrom (c :: acc) bound cs
    | c :: cs => if isTextChar c then basicFrom (c :: acc) bound cs else none
    | [] => none

def literalFrom (acc : List Char) : Scan String
  | '\'' :: cs => some (reading acc cs)
  | c :: cs => if isTextChar c then literalFrom (c :: acc) cs else none
  | [] => none

/-- Closes a string of several lines at three quotes; one or two more in front belong to it. -/
def closeLines (quote : Char) (acc : List Char) (cs : List Char) : String × List Char :=
  match cs with
  | a :: b :: rest =>
    if a = quote then
      if b = quote then reading (quote :: quote :: acc) rest else reading (quote :: acc) (b :: rest)
    else reading acc cs
  | [a] => if a = quote then reading (quote :: acc) [] else reading acc cs
  | [] => reading acc []

def skipBlankLines : (bound : Nat) → List Char → List Char
  | 0, cs => cs
  | bound + 1, cs =>
    match newline? (skipSpace cs) with
    | some rest => skipBlankLines bound rest
    | none => skipSpace cs

/-- What follows a backslash that hides a line end, with all blanks and newlines after it. -/
def hiddenLineEnd? (cs : List Char) : Option (List Char) :=
  (newline? (skipSpace cs)).map (skipBlankLines cs.length)

def basicLinesFrom (acc : List Char) : (bound : Nat) → Scan String
  | 0, _ => none
  | bound + 1, cs =>
    match cs with
    | '"' :: '"' :: '"' :: cs => some (closeLines '"' acc cs)
    | '\\' :: cs =>
      match hiddenLineEnd? cs with
      | some cs => basicLinesFrom acc bound cs
      | none => do
        let (c, cs) ← escape? cs
        basicLinesFrom (c :: acc) bound cs
    | c :: cs =>
      match newline? (c :: cs) with
      | some cs => basicLinesFrom ('\n' :: acc) bound cs
      | none => if isTextChar c then basicLinesFrom (c :: acc) bound cs else none
    | [] => none

def literalLinesFrom (acc : List Char) : (bound : Nat) → Scan String
  | 0, _ => none
  | bound + 1, cs =>
    match cs with
    | '\'' :: '\'' :: '\'' :: cs => some (closeLines '\'' acc cs)
    | c :: cs =>
      match newline? (c :: cs) with
      | some cs => literalLinesFrom ('\n' :: acc) bound cs
      | none => if isTextChar c then literalLinesFrom (c :: acc) bound cs else none
    | [] => none

/-- A newline right after the opening quotes does not count. -/
def afterFirstNewline (cs : List Char) : List Char :=
  (newline? cs).getD cs

def string? : Scan String
  | '"' :: '"' :: '"' :: cs => basicLinesFrom [] (cs.length + 1) (afterFirstNewline cs)
  | '\'' :: '\'' :: '\'' :: cs => literalLinesFrom [] (cs.length + 1) (afterFirstNewline cs)
  | '"' :: cs => basicFrom [] (cs.length + 1) cs
  | '\'' :: cs => literalFrom [] cs
  | _ => none

def isBareKeyChar (c : Char) : Bool :=
  c.isAlphanum || c = '_' || c = '-'

def simpleKey? (cs : List Char) : Option (String × List Char) :=
  match cs with
  | '"' :: cs => basicFrom [] (cs.length + 1) cs
  | '\'' :: cs => literalFrom [] cs
  | cs =>
    match cs.takeWhile isBareKeyChar with
    | [] => none
    | key => some (String.ofList key, cs.dropWhile isBareKeyChar)

/-- Parts of a key with dots and blanks between them. -/
def keyParts? : (bound : Nat) → Scan (List Key)
  | 0, _ => none
  | bound + 1, cs => do
    let start := skipSpace cs
    let (name, stop) ← simpleKey? start
    let part : Key := ⟨name, .between start stop⟩
    match skipSpace stop with
    | '.' :: cs => do
      let (parts, cs) ← keyParts? bound cs
      return (part :: parts, cs)
    | cs => return ([part], cs)

/-- Neither keys nor values go deeper. -/
def deepest : Nat := 80

def key? (cs : List Char) : Option (List Key × List Char) :=
  keyParts? (deepest - 1) cs

end TraceView.Toml
