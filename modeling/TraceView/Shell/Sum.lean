import TraceView.Shell.Command
import TraceView.Shell.Numeral

/-!
# Sums

Whole numbers of 64 bits and the usual operators, from assignments down to signs. Variables are read
and set while the sum is read; a part that does not count is read without either.
-/

namespace TraceView.Shell.Sum

inductive Item where
  | number (n : Int64)
  | name (s : String)
  | op (s : String)
  /-- A character that belongs to no sum. -/
  | bad
  deriving DecidableEq, Repr

/-- Operators, longer ones before those they begin with. -/
def operators : List String :=
  ["<<=", ">>=", "<<", ">>", "<=", ">=", "==", "!=", "&&", "||", "+=", "-=", "*=", "/=", "%=", "&=",
    "^=", "|=", "<", ">", "=", "!", "&", "|", "+", "-", "*", "/", "%", "^", "~", "?", ":", "(", ")"]

/-- Why a text is no sum. -/
inductive Flaw where
  | noTerm
  | noClosing
  | noColon
  | goesOn
  | divisionByZero
  deriving DecidableEq, Repr

def Flaw.text : Flaw → String
  | .noTerm => "expecting primary"
  | .noClosing => "expecting ')'"
  | .noColon => "expecting ':'"
  | .goesOn => "expecting EOF"
  | .divisionByZero => "division by zero"

/-- The items of a text, up to a character that belongs to none; `skip` characters are taken. -/
def itemsFrom (skip : Nat) : List Char → List Item
  | [] => []
  | c :: cs =>
    match skip with
    | n + 1 => itemsFrom n cs
    | 0 =>
      if isBlank c || c = '\n' then itemsFrom 0 cs
      else if c.isDigit then
        match digitsAt? none (c :: cs) with
        | some n => .number (Int64.ofInt n.clamped) :: itemsFrom (cs.length - n.rest.length) cs
        | none => [.bad]
      else if isNameStart c then
        let rest := cs.takeWhile isNameChar
        .name (String.ofList (c :: rest)) :: itemsFrom rest.length cs
      else
        match operators.find? fun o => o.toList.isPrefixOf (c :: cs) with
        | some o => .op o :: itemsFrom (o.length - 1) cs
        | none => [.bad]

def items (s : String) : List Item := itemsFrom 0 s.toList

/-- Operators by how tightly they bind, the loosest first; each groups to the left. -/
def levels : List (List String) :=
  [["|"], ["^"], ["&"], ["==", "!="], ["<", "<=", ">", ">="], ["<<", ">>"], ["+", "-"],
    ["*", "/", "%"]]

def assignments : List String :=
  ["=", "+=", "-=", "*=", "/=", "%=", "<<=", ">>=", "&=", "^=", "|="]

def truth (b : Bool) : Int64 := if b then 1 else 0

def combine (op : String) (a b : Int64) : Except Flaw Int64 :=
  match op with
  | "|" => .ok (a ||| b)
  | "^" => .ok (a ^^^ b)
  | "&" => .ok (a &&& b)
  | "==" => .ok (truth (a = b))
  | "!=" => .ok (truth (a ≠ b))
  | "<" => .ok (truth (a < b))
  | "<=" => .ok (truth (a ≤ b))
  | ">" => .ok (truth (b < a))
  | ">=" => .ok (truth (b ≤ a))
  | "<<" => .ok (a <<< b)
  | ">>" => .ok (a >>> b)
  | "+" => .ok (a + b)
  | "-" => .ok (a - b)
  | "*" => .ok (a * b)
  | "/" => if b = 0 then .error .divisionByZero else .ok (a / b)
  | "%" => if b = 0 then .error .divisionByZero else .ok (a % b)
  | _ => .error .noTerm

/-- The variables that a sum speaks of. -/
structure Variables (m : Type → Type) where
  value : String → m Int64
  assign : String → Int64 → m Unit

variable {m : Type → Type} [Monad m]

abbrev Reader (m : Type → Type) := StateT (List Item) (ExceptT Flaw m)

def orFail {α : Type} (r : Except Flaw α) : Reader m α :=
  match r with
  | .ok a => return a
  | .error flaw => throw flaw

/-- Passes over an operator if it comes next. -/
def accept (op : String) : Reader m Bool := do
  match ← get with
  | .op o :: rest =>
    if o = op then
      set rest
      return true
    else return false
  | _ => return false

variable (v : Variables m)

mutual

/-- `live` says whether the part counts. -/
def assignment : Nat → Bool → Reader m Int64
  | 0, _ => throw .noTerm
  | fuel + 1, live => do
    match ← get with
    | .name s :: .op o :: rest =>
      if assignments.contains o then
        set rest
        let right ← assignment fuel live
        if !live then return right
        let n ← if o = "=" then pure right
          else orFail (combine (String.ofList o.toList.dropLast) (← v.value s) right)
        v.assign s n
        return n
      else choice fuel live
    | _ => choice fuel live

/-- `a ? b : c`. -/
def choice : Nat → Bool → Reader m Int64
  | 0, _ => throw .noTerm
  | fuel + 1, live => do
    let test ← anyOf fuel live
    if ← accept "?" then
      let yes ← assignment fuel (live && test ≠ 0)
      unless ← accept ":" do throw .noColon
      let no ← choice fuel (live && test = 0)
      return if test ≠ 0 then yes else no
    else return test

def anyOf : Nat → Bool → Reader m Int64
  | 0, _ => throw .noTerm
  | fuel + 1, live => do
    let first ← allOf fuel live
    if ← accept "||" then
      let rest ← anyOf fuel (live && first = 0)
      return truth (first ≠ 0 || rest ≠ 0)
    else return first

def allOf : Nat → Bool → Reader m Int64
  | 0, _ => throw .noTerm
  | fuel + 1, live => do
    let first ← level fuel levels live
    if ← accept "&&" then
      let rest ← allOf fuel (live && first ≠ 0)
      return truth (first ≠ 0 && rest ≠ 0)
    else return first

/-- Operators of the first of these levels. -/
def level : Nat → List (List String) → Bool → Reader m Int64
  | 0, _, _ => throw .noTerm
  | fuel + 1, [], live => term fuel live
  | fuel + 1, ops :: tighter, live => do
    levelRest fuel ops tighter live (← level fuel tighter live)

def levelRest : Nat → List String → List (List String) → Bool → Int64 → Reader m Int64
  | 0, _, _, _, _ => throw .noTerm
  | fuel + 1, ops, tighter, live, left => do
    match ← get with
    | .op o :: rest =>
      if ops.contains o then
        set rest
        let right ← level fuel tighter live
        let n ← if live then orFail (combine o left right) else pure right
        levelRest fuel ops tighter live n
      else return left
    | _ => return left

/-- A term, its signs included. -/
def term : Nat → Bool → Reader m Int64
  | 0, _ => throw .noTerm
  | fuel + 1, live => do
    match ← get with
    | .number n :: rest =>
      set rest
      return n
    | .name s :: rest =>
      set rest
      if live then v.value s else return 0
    | .op "+" :: rest =>
      set rest
      term fuel live
    | .op "-" :: rest =>
      set rest
      return -(← term fuel live)
    | .op "!" :: rest =>
      set rest
      return truth ((← term fuel live) = 0)
    | .op "~" :: rest =>
      set rest
      return ~~~(← term fuel live)
    | .op "(" :: rest =>
      set rest
      let n ← assignment fuel live
      unless ← accept ")" do throw .noClosing
      return n
    | _ => throw .noTerm

end

def read (s : String) : ExceptT Flaw m Int64 := do
  let found := items s
  match ← (assignment v (16 * (found.length + 1)) true).run found with
  | (n, []) => return n
  | _ => throw .goesOn

end TraceView.Shell.Sum
