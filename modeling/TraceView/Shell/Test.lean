import TraceView.Machine.Tree
import TraceView.Shell.Numeral

/-!
# Tests

The conditions that `test` and `[` decide: operands joined by `-a` and, more loosely, by `-o`. Up to
four operands are understood by their number first. Fuel bounds the depth of parentheses.
-/

namespace TraceView.Shell

open TraceView.Machine (Node)

/-- Why operands are no condition. -/
inductive TestFault where
  | illegalNumber (s : String)
  | argumentExpected (operator : String)
  | unexpectedOperator (s : String)
  | noClosing
  deriving DecidableEq, Repr

def TestFault.text : TestFault → String
  | .illegalNumber s => "Illegal number: " ++ s
  | .argumentExpected operator => operator ++ ": argument expected"
  | .unexpectedOperator s => if s = "" then "unexpected operator" else s ++ ": unexpected operator"
  | .noClosing => "closing paren expected"

abbrev Answer := Except TestFault Bool

def number (s : String) : Except TestFault Int :=
  match wholeNumber? (some 10) s with
  | some n => .ok n
  | none => .error (.illegalNumber s)

/-- What is found under a path. -/
abbrev Finder := String → Option (Path × Node)

def isRegular : Node → Bool
  | .file _ | .program _ => true
  | _ => false

def isExecutable : Node → Bool
  | .directory | .program _ => true
  | _ => false

def hasSize : Node → Bool
  | .file content => content ≠ []
  | .directory | .program _ => true
  | .nullDevice => false

def unaryTest? (find : Finder) (op operand : String) : Option Answer :=
  let node := (find operand).map (·.2)
  match op with
  | "-n" => some (.ok (operand ≠ ""))
  | "-z" => some (.ok (operand = ""))
  | "-e" | "-r" | "-w" | "-O" | "-G" => some (.ok node.isSome)
  | "-f" => some (.ok (node.any isRegular))
  | "-d" => some (.ok (node = some .directory))
  | "-c" => some (.ok (node = some .nullDevice))
  | "-x" => some (.ok (node.any isExecutable))
  | "-s" => some (.ok (node.any hasSize))
  | "-b" | "-g" | "-h" | "-k" | "-L" | "-p" | "-S" | "-u" => some (.ok false)
  | "-t" => some ((number operand).map fun _ => false)
  | _ => none

def compare? (op : String) : Option (Int → Int → Bool) :=
  match op with
  | "-eq" => some fun m n => m = n
  | "-ne" => some fun m n => m ≠ n
  | "-lt" => some fun m n => m < n
  | "-le" => some fun m n => m ≤ n
  | "-gt" => some fun m n => m > n
  | "-ge" => some fun m n => m ≥ n
  | _ => none

def binaryTest? (find : Finder) (op a b : String) : Option Answer :=
  let place := fun s => (find s).map (·.1)
  match op with
  | "=" => some (.ok (a = b))
  | "!=" => some (.ok (a ≠ b))
  | "<" => some (.ok (a < b))
  | ">" => some (.ok (b < a))
  | "-ef" => some (.ok ((place a).isSome && place a = place b))
  | "-nt" | "-ot" => some (.ok false)
  | _ => (compare? op).map fun f => do return f (← number a) (← number b)

def isBinary (op : String) : Bool := (binaryTest? (fun _ => none) op "0" "0").isSome

def isUnary (op : String) : Bool := (unaryTest? (fun _ => none) op "0").isSome

/-- What an operand means where it stands. -/
inductive TestWord where
  | ended
  | operand
  | unary
  | binary
  | not
  | and
  | or
  | opens
  | closes
  deriving DecidableEq, Repr

/-- The meaning of the first operand. An operator with nothing to work on is an operand. -/
def testWord : List String → TestWord
  | [] => .ended
  | s :: rest =>
    if isUnary s then
      match rest with
      | [] => .operand
      | [_] => .unary
      | next :: _ => if isBinary next then .operand else .unary
    else if isBinary s then .binary
    else match s with
      | "!" => .not
      | "-a" => .and
      | "-o" => .or
      | "(" => if rest.isEmpty then .operand else .opens
      | ")" => .closes
      | _ => .operand

variable (find : Finder)

/-- A condition, and the operands from its last one on. -/
abbrev Tested := Except TestFault (Bool × List String)

mutual

def anyTest : Nat → TestWord → List String → Tested
  | 0, _, ts => .ok (false, ts)
  | fuel + 1, w, ts => do
    let (first, ts) ← allTest fuel w ts
    if testWord ts.tail = .or then
      let ts := ts.tail.tail
      let (rest, ts) ← anyTest fuel (testWord ts) ts
      return (first || rest, ts)
    else return (first, ts)

def allTest : Nat → TestWord → List String → Tested
  | 0, _, ts => .ok (false, ts)
  | fuel + 1, w, ts => do
    let (first, ts) ← notTest fuel w ts
    if testWord ts.tail = .and then
      let ts := ts.tail.tail
      let (rest, ts) ← allTest fuel (testWord ts) ts
      return (first && rest, ts)
    else return (first, ts)

def notTest : Nat → TestWord → List String → Tested
  | 0, _, ts => .ok (false, ts)
  | fuel + 1, w, ts => do
    if w = .not then
      let next := testWord ts.tail
      let (b, ts) ← notTest fuel next (if next = .ended then ts else ts.tail)
      return (!b, ts)
    else oneTest fuel w ts

def oneTest : Nat → TestWord → List String → Tested
  | 0, _, ts => .ok (false, ts)
  | fuel + 1, w, ts => do
    match w, ts with
    | .ended, ts => return (false, ts)
    | .opens, _ :: ts =>
      let next := testWord ts
      if next = .closes then return (false, ts)
      let (b, ts) ← anyTest fuel next ts
      if testWord ts.tail = .closes then return (b, ts.tail) else throw .noClosing
    | .unary, op :: a :: rest =>
      match unaryTest? find op a with
      | some answer => return (← answer, a :: rest)
      | none => throw (.unexpectedOperator op)
    | .unary, op :: [] => throw (.argumentExpected op)
    | _, a :: op :: rest =>
      if testWord (op :: rest) = .binary then
        match rest with
        | b :: rest =>
          match binaryTest? find op a b with
          | some answer => return (← answer, b :: rest)
          | none => throw (.unexpectedOperator op)
        | [] => throw (.argumentExpected op)
      else return (a ≠ "", a :: op :: rest)
    | _, [a] => return (a ≠ "", [a])
    | _, [] => return (false, [])

end

/-- A condition that takes all operands. -/
def wholeTest (w : TestWord) (ts : List String) : Answer := do
  let (b, rest) ← anyTest find (8 * (ts.length + 1)) w ts
  match rest with
  | s :: _ :: _ => throw (.unexpectedOperator s)
  | _ => return b

/-- `negated` says whether an exclamation mark came before the operands; a second one before three
operands changes nothing. -/
def testFrom (negated : Bool) (operands : List String) : Answer :=
  let whole := fun w ts => (wholeTest find w ts).map (· != negated)
  let inParentheses := operands.head? = some "(" && operands.getLast? = some ")"
  let inner := operands.tail.dropLast
  match operands with
  | [] => .ok negated
  | [a, op, b] =>
    if isBinary op then whole .operand operands
    else if inParentheses then whole (testWord inner) inner
    else if a = "!" then testFrom true [op, b]
    else whole (testWord operands) operands
  | [a, b, op, c] =>
    if inParentheses then whole (testWord inner) inner
    else if a = "!" then testFrom true [b, op, c]
    else whole (testWord operands) operands
  | operands => whole (testWord operands) operands
  termination_by operands.length

def test (operands : List String) : Answer := testFrom find false operands

end TraceView.Shell
