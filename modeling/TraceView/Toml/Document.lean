import TraceView.Toml.Numbers
import TraceView.Toml.Strings
import TraceView.Toml.Table

/-!
# TOML documents

Reads TOML 1.0. Of a document that is none nothing is kept, not even where it fails.
-/

namespace TraceView.Toml

/-- Items of an array after its bracket, each read by `value`. -/
def itemsWith (value : Scan Toml) (acc : List Toml) : (bound : Nat) → Scan (List Toml)
  | 0, _ => none
  | bound + 1, cs =>
    match skipGap cs with
    | ']' :: cs => some (acc.reverse, cs)
    | cs => do
      let (v, cs) ← value cs
      match skipGap cs with
      | ',' :: cs => itemsWith value (v :: acc) bound cs
      | ']' :: cs => some ((v :: acc).reverse, cs)
      | _ => none

/-- Fields of an inline table from the first key on. -/
def fieldsWith (value : Scan Toml) (fields : Fields) : (bound : Nat) → Scan Fields
  | 0, _ => none
  | bound + 1, cs => do
    let (keys, cs) ← key? cs
    let start := skipSpace (← char? '=' (skipSpace cs))
    let (v, stop) ← value start
    let fields ← assign? .inlineDotted .inline fields keys v (.between start stop)
    match skipSpace stop with
    | ',' :: cs => fieldsWith value fields bound cs
    | '}' :: cs => some (fields, cs)
    | _ => none

def inlineTableWith (value : Scan Toml) (cs : List Char) : Option (Toml × List Char) :=
  match skipSpace cs with
  | '}' :: cs => some (.table .inline [], cs)
  | cs => (fieldsWith value [] (cs.length + 1) cs).map fun (fields, cs) => (.table .inline fields, cs)

def isNumberStart (c : Char) : Bool :=
  Text.isAsciiDigit c || c = '+' || c = '-' || c = 'i' || c = 'n'

/-- A value in which at most `depth` containers are nested. -/
def value? : (depth : Nat) → Scan Toml
  | depth, cs =>
    match cs with
    | '"' :: _ | '\'' :: _ => (string? cs).map fun (s, cs) => (.string s, cs)
    | '[' :: rest =>
      match depth with
      | 0 => none
      | depth + 1 =>
        (itemsWith (value? depth) [] (rest.length + 1) rest).map fun (vs, cs) => (.array vs, cs)
    | '{' :: rest =>
      match depth with
      | 0 => none
      | depth + 1 => inlineTableWith (value? depth) rest
    | 't' :: 'r' :: 'u' :: 'e' :: cs => some (.boolean true, cs)
    | 'f' :: 'a' :: 'l' :: 's' :: 'e' :: cs => some (.boolean false, cs)
    | c :: _ => if isNumberStart c then numberOrDate? cs else none
    | [] => none

def header? (d : Draft) (cs : List Char) : Option (Draft × List Char) :=
  match cs with
  | '[' :: '[' :: inner => do
    let (path, stop) ← key? inner
    match skipSpace stop with
    | ']' :: ']' :: stop => return (← d.openItem? path (.between cs stop), ← endOfLine? stop)
    | _ => none
  | '[' :: inner => do
    let (path, stop) ← key? inner
    match skipSpace stop with
    | ']' :: stop => return (← d.openTable? path (.between cs stop), ← endOfLine? stop)
    | _ => none
  | _ => none

def assignment? (d : Draft) (cs : List Char) : Option (Draft × List Char) := do
  let (keys, cs) ← key? cs
  let start := skipSpace (← char? '=' (skipSpace cs))
  let (v, stop) ← value? (deepest - 1) start
  return (← d.assign? keys v (.between start stop), ← endOfLine? stop)

/-- The lines of a document; at most `bound` of them. -/
def linesFrom (d : Draft) : (bound : Nat) → List Char → Option Draft
  | 0, _ => none
  | bound + 1, cs =>
    match skipSpace cs with
    | [] => some d
    | '[' :: rest => do
      let (d, cs) ← header? d ('[' :: rest)
      linesFrom d bound cs
    | c :: rest =>
      if c = '#' ∨ c = '\n' ∨ c = '\r' then do
        linesFrom d bound (← endOfLine? (c :: rest))
      else do
        let (d, cs) ← assignment? d (c :: rest)
        linesFrom d bound cs

def withoutMark (cs : List Char) : List Char :=
  match cs with
  | '\uFEFF' :: cs => cs
  | cs => cs

/-- The fields of the document in the order in which they were opened. -/
def read? (text : String) : Option Fields := do
  let cs := withoutMark text.toList
  let d ← linesFrom .empty (cs.length + 1) cs
  d.close?

end TraceView.Toml
