import TraceView.Json.Number
import TraceView.Text.Utf8

/-!
# Reading JSON

The reader is an automaton that takes one byte at a time: `State.step` moves it, `State.finish`
says what the end of the input means. So a value is read by one pass over its bytes, and reading
two pieces one after the other is reading their concatenation. A text that breaks off is told apart
from one that is no JSON.
-/

namespace TraceView.Json

inductive Flaw where
  /-- The text ends too early. -/
  | cut
  /-- The text is no JSON. -/
  | malformed
  deriving DecidableEq, Repr

/-- A container that is still open; what it holds so far stands in reverse. -/
inductive Frame where
  | array (items : List Json)
  | object (fields : List (String × Json)) (key : String)
  deriving Repr

/-- Where a numeral stands. -/
inductive NumeralPart where
  | sign
  | zero
  | whole
  | point
  | fraction
  | exponent
  | exponentSign
  | exponentDigits
  deriving DecidableEq, Repr

/-- The digits of a numeral under way, each list in reverse, and the size of its exponent. -/
structure NumeralDraft where
  negative : Bool
  part : NumeralPart
  whole : List Nat
  fraction : List Nat
  exponentDown : Bool
  exponent : Nat
  deriving Repr

/-- Inside a string: after a plain byte, after a backslash, or within `\u`, where `lead` is a first
surrogate already read. -/
inductive StringPart where
  | plain
  | escape
  | unit (lead : Option Nat) (read : List UInt8)
  | secondEscape (lead : Nat)
  | secondUnit (lead : Nat)
  deriving Repr

inductive Mode where
  | value
  | firstItem
  | firstKey
  | key
  | colon
  | afterItem
  | afterField
  | done (v : Json)
  | literal (rest : List UInt8) (v : Json)
  | string (isKey : Bool) (bytes : List UInt8) (part : StringPart)
  | numeral (draft : NumeralDraft)
  deriving Repr

structure State where
  stack : List Frame
  mode : Mode
  deriving Repr

def State.initial : State := ⟨[], .value⟩

/-- More containers than this are not nested. -/
def deepest : Nat := 127

def isBlankByte (b : UInt8) : Bool :=
  b = 0x20 || b = 0x0A || b = 0x09 || b = 0x0D

def byteDigit? (b : UInt8) : Option Nat :=
  if 0x30 ≤ b ∧ b ≤ 0x39 then some (b.toNat - 0x30) else none

def byteHex? (b : UInt8) : Option Nat :=
  Text.hexValue? (Char.ofNat b.toNat)

/-- Hands a finished value to the container around it. -/
def deliver (stack : List Frame) (v : Json) : State :=
  match stack with
  | [] => ⟨[], .done v⟩
  | .array items :: rest => ⟨.array (v :: items) :: rest, .afterItem⟩
  | .object fields key :: rest => ⟨.object ((key, v) :: fields) key :: rest, .afterField⟩

/-- Hands a finished string on, as the key of the field to come or as a value. -/
def deliverString (stack : List Frame) (isKey : Bool) (s : String) : State :=
  match isKey, stack with
  | true, .object fields _ :: rest => ⟨.object fields s :: rest, .colon⟩
  | _, stack => deliver stack (.string s)

/-- The outermost object keeps its fields as they were read until the input ends. -/
def closeContainer (stack : List Frame) : Except Flaw State :=
  match stack with
  | [] => .error .malformed
  | .array items :: rest => .ok (deliver rest (.array items.reverse))
  | [.object fields _] => .ok ⟨[], .done (.object fields.reverse)⟩
  | .object fields _ :: rest => .ok (deliver rest (ofFields fields.reverse))

def openContainer (stack : List Frame) (frame : Frame) (mode : Mode) : Except Flaw State :=
  if stack.length < deepest then .ok ⟨frame :: stack, mode⟩ else .error .malformed

namespace NumeralDraft

def ofSign : NumeralDraft := ⟨true, .sign, [], [], false, 0⟩

def pushWhole (n : NumeralDraft) (d : Nat) : NumeralDraft :=
  { n with part := if d = 0 && n.whole = [] then .zero else .whole, whole := d :: n.whole }

def ofDigit (d : Nat) : NumeralDraft :=
  pushWhole ⟨false, .sign, [], [], false, 0⟩ d

/-- Has the numeral all that it needs? -/
def complete (n : NumeralDraft) : Bool :=
  match n.part with
  | .zero | .whole | .fraction | .exponentDigits => true
  | .sign | .point | .exponent | .exponentSign => false

def numeral (n : NumeralDraft) : Numeral where
  negative := n.negative
  whole := n.whole.reverse
  fraction := n.fraction.reverse
  exponent := if n.part = .exponentDigits then some (n.exponentDown, n.exponent) else none

def value (n : NumeralDraft) : Except Flaw Json :=
  match n.numeral.value? with
  | some v => .ok (.number v)
  | none => .error .malformed

/-- A digit of the exponent. A numeral that it takes past the limit has no value, whatever follows,
unless it is zero or tends to zero. -/
def pushExponent (n : NumeralDraft) (d : Nat) : Except Flaw NumeralDraft :=
  let e := Json.pushExponent n.exponent d
  let isZero := n.whole.all (· = 0) && n.fraction.all (· = 0)
  if e = exponentLimit && !n.exponentDown && !isZero then .error .malformed
  else .ok { n with part := .exponentDigits, exponent := e }

/-- One more byte; `none` if it does not belong to a complete numeral. -/
def push (n : NumeralDraft) (b : UInt8) : Except Flaw (Option NumeralDraft) :=
  let other : Except Flaw (Option NumeralDraft) :=
    if n.complete then .ok none else .error .malformed
  let isExp := b = 0x65 || b = 0x45
  match n.part, byteDigit? b with
  | .sign, some d => .ok (n.pushWhole d)
  | .zero, some _ => .error .malformed
  | .whole, some d => .ok (n.pushWhole d)
  | .point, some d => .ok (some { n with part := .fraction, fraction := d :: n.fraction })
  | .fraction, some d => .ok (some { n with fraction := d :: n.fraction })
  | .exponent, some d | .exponentSign, some d | .exponentDigits, some d =>
    (n.pushExponent d).map some
  | .zero, none | .whole, none =>
    if b = 0x2E then .ok (some { n with part := .point })
    else if isExp then .ok (some { n with part := .exponent })
    else other
  | .fraction, none =>
    if isExp then .ok (some { n with part := .exponent }) else other
  | .exponent, none =>
    if b = 0x2B then .ok (some { n with part := .exponentSign })
    else if b = 0x2D then .ok (some { n with part := .exponentSign, exponentDown := true })
    else other
  | .sign, none | .point, none | .exponentSign, none | .exponentDigits, none => other

end NumeralDraft

/-- The first byte of a value. -/
def startValue (stack : List Frame) (b : UInt8) : Except Flaw State :=
  if b = 0x7B then openContainer stack (.object [] "") .firstKey
  else if b = 0x5B then openContainer stack (.array []) .firstItem
  else if b = 0x22 then .ok ⟨stack, .string false [] .plain⟩
  else if b = 0x6E then .ok ⟨stack, .literal [0x75, 0x6C, 0x6C] .null⟩
  else if b = 0x74 then .ok ⟨stack, .literal [0x72, 0x75, 0x65] (.bool true)⟩
  else if b = 0x66 then .ok ⟨stack, .literal [0x61, 0x6C, 0x73, 0x65] (.bool false)⟩
  else if b = 0x2D then .ok ⟨stack, .numeral .ofSign⟩
  else
    match byteDigit? b with
    | some d => .ok ⟨stack, .numeral (.ofDigit d)⟩
    | none => .error .malformed

def pushChar (c : Char) (bytes : List UInt8) : List UInt8 :=
  (String.utf8EncodeChar c).reverse ++ bytes

def shortEscape? (b : UInt8) : Option UInt8 :=
  if b = 0x22 ∨ b = 0x5C ∨ b = 0x2F then some b
  else if b = 0x62 then some 0x08
  else if b = 0x66 then some 0x0C
  else if b = 0x6E then some 0x0A
  else if b = 0x72 then some 0x0D
  else if b = 0x74 then some 0x09
  else none

/-- The value of four hexadecimal digits, given in reverse. -/
def unitValue? (bytes : List UInt8) : Option Nat :=
  bytes.reverse.foldlM (fun n b => (byteHex? b).map (n * 16 + ·)) 0

def isLead (n : Nat) : Bool := 0xD800 ≤ n && n ≤ 0xDBFF

def isTrail (n : Nat) : Bool := 0xDC00 ≤ n && n ≤ 0xDFFF

def joinUnits (lead trail : Nat) : Char :=
  Char.ofNat (0x10000 + (lead - 0xD800) * 0x400 + (trail - 0xDC00))

/-- What a finished `\u` unit adds to the string. -/
def closeUnit (lead : Option Nat) (n : Nat) (bytes : List UInt8) :
    Except Flaw (List UInt8 × StringPart) :=
  match lead with
  | some l => if isTrail n then .ok (pushChar (joinUnits l n) bytes, .plain) else .error .malformed
  | none =>
    if isTrail n then .error .malformed
    else if isLead n then .ok (bytes, .secondEscape n)
    else .ok (pushChar (Char.ofNat n) bytes, .plain)

/-- One more byte of a string that it does not end. -/
def pushString (bytes : List UInt8) (part : StringPart) (b : UInt8) :
    Except Flaw (List UInt8 × StringPart) :=
  match part with
  | .plain =>
    if b = 0x5C then .ok (bytes, .escape)
    else if b < 0x20 then .error .malformed
    else .ok (b :: bytes, .plain)
  | .escape =>
    if b = 0x75 then .ok (bytes, .unit none [])
    else
      match shortEscape? b with
      | some e => .ok (e :: bytes, .plain)
      | none => .error .malformed
  | .unit lead read =>
    if read.length < 3 then .ok (bytes, .unit lead (b :: read))
    else
      match unitValue? (b :: read) with
      | some n => closeUnit lead n bytes
      | none => .error .malformed
  | .secondEscape lead => if b = 0x5C then .ok (bytes, .secondUnit lead) else .error .malformed
  | .secondUnit lead => if b = 0x75 then .ok (bytes, .unit (some lead) []) else .error .malformed

/-- One byte outside strings, literals and numerals. -/
def State.stepPlain (s : State) (b : UInt8) : Except Flaw State :=
  if isBlankByte b then .ok s
  else
    match s.mode with
    | .value => startValue s.stack b
    | .firstItem => if b = 0x5D then closeContainer s.stack else startValue s.stack b
    | .firstKey =>
      if b = 0x7D then closeContainer s.stack
      else if b = 0x22 then .ok ⟨s.stack, .string true [] .plain⟩
      else .error .malformed
    | .key => if b = 0x22 then .ok ⟨s.stack, .string true [] .plain⟩ else .error .malformed
    | .colon => if b = 0x3A then .ok ⟨s.stack, .value⟩ else .error .malformed
    | .afterItem =>
      if b = 0x2C then .ok ⟨s.stack, .value⟩
      else if b = 0x5D then closeContainer s.stack
      else .error .malformed
    | .afterField =>
      if b = 0x2C then .ok ⟨s.stack, .key⟩
      else if b = 0x7D then closeContainer s.stack
      else .error .malformed
    | _ => .error .malformed

/-- Ends a numeral to which the next byte does not belong. -/
def State.endNumeral (s : State) (b : UInt8) : Except Flaw State :=
  match s.mode with
  | .numeral draft => do
    match ← draft.push b with
    | some _ => pure s
    | none => pure (deliver s.stack (← draft.value))
  | _ => .ok s

/-- Takes a byte, which belongs to the numeral if one is under way. -/
def State.take (s : State) (b : UInt8) : Except Flaw State :=
  match s.mode with
  | .literal [] _ => .error .malformed
  | .literal (c :: rest) v =>
    if b ≠ c then .error .malformed
    else if rest = [] then .ok (deliver s.stack v)
    else .ok ⟨s.stack, .literal rest v⟩
  | .string isKey bytes .plain =>
    if b = 0x22 then
      match Text.Utf8.strict? bytes.reverse with
      | some text => .ok (deliverString s.stack isKey text)
      | none => .error .malformed
    else
      (pushString bytes .plain b).map fun (bytes, part) => ⟨s.stack, .string isKey bytes part⟩
  | .string isKey bytes part =>
    (pushString bytes part b).map fun (bytes, part) => ⟨s.stack, .string isKey bytes part⟩
  | .numeral draft => do
    match ← draft.push b with
    | some draft => pure ⟨s.stack, .numeral draft⟩
    | none => throw .malformed
  | _ => s.stepPlain b

def State.step (s : State) (b : UInt8) : Except Flaw State :=
  s.endNumeral b >>= fun t => t.take b

/-- At the end of the input a complete numeral ends too. -/
def State.settle (s : State) : Except Flaw State :=
  match s.mode with
  | .numeral draft =>
    if draft.complete then draft.value.map (deliver s.stack) else .error .cut
  | _ => .ok s

def State.result (s : State) : Except Flaw Json :=
  match s.mode with
  | .done (.object fields) => .ok (ofFields fields)
  | .done v => .ok v
  | _ => .error .cut

def State.finish (s : State) : Except Flaw Json :=
  s.settle >>= State.result

def run (s : State) (bytes : List UInt8) : Except Flaw State :=
  bytes.foldlM State.step s

def readBytes (bytes : List UInt8) : Except Flaw Json :=
  run .initial bytes >>= State.finish

def read (text : String) : Except Flaw Json :=
  readBytes text.toUTF8.toList

theorem run_append (s : State) (xs ys : List UInt8) :
    run s (xs ++ ys) = run s xs >>= fun t => run t ys := by
  simp [run, List.foldlM_append]

end TraceView.Json
