import TraceView.Text.Numeral

/-!
# Whole numbers in operands

A number may have blanks and a sign before it. Where the base is open, a leading zero asks for base
eight, `0x` for base sixteen and `0b` for base two.
-/

namespace TraceView.Shell

def isSpace (c : Char) : Bool := c = ' ' || ('\t' ≤ c && c ≤ '\r')

/-- The value of a digit in a base up to sixteen. -/
def digitIn? (base : Nat) (c : Char) : Option Nat :=
  (Text.hexValue? c).filter (· < base)

def numberIn (base : Nat) (cs : List Char) : Nat :=
  cs.foldl (fun n c => n * base + (digitIn? base c).getD 0) 0

/-- The number at the front of a text, and the text after it. Without digits nothing is read. -/
structure Numeral where
  negative : Bool
  magnitude : Nat
  rest : List Char
  deriving Repr

/-- The base of the digits at the front, and the digits without what announces it. -/
def openBase (cs : List Char) : Nat × List Char :=
  match cs with
  | '0' :: x :: d :: ds =>
    if (x = 'x' || x = 'X') && (digitIn? 16 d).isSome then (16, d :: ds)
    else if (x = 'b' || x = 'B') && (digitIn? 2 d).isSome then (2, d :: ds)
    else (8, cs)
  | '0' :: _ => (8, cs)
  | _ => (10, cs)

/-- Digits without a sign; `base` is none where it is open. -/
def digitsAt? (base : Option Nat) (cs : List Char) : Option Numeral :=
  let (base, cs) := base.elim (openBase cs) (·, cs)
  let digits := cs.takeWhile fun c => (digitIn? base c).isSome
  if digits.isEmpty then none
  else some ⟨false, numberIn base digits, cs.drop digits.length⟩

def numeralAt? (base : Option Nat) (cs : List Char) : Option Numeral :=
  match cs.dropWhile isSpace with
  | '-' :: cs => (digitsAt? base cs).map fun n => { n with negative := true }
  | '+' :: cs => digitsAt? base cs
  | cs => digitsAt? base cs

def leastWord : Int := -9223372036854775808

def greatestWord : Int := 9223372036854775807

def Numeral.value (n : Numeral) : Int := if n.negative then -n.magnitude else n.magnitude

/-- Does the number fit 64 bits with a sign? -/
def Numeral.fits (n : Numeral) : Bool := leastWord ≤ n.value && n.value ≤ greatestWord

/-- The nearest number of 64 bits. -/
def Numeral.clamped (n : Numeral) : Int := max leastWord (min greatestWord n.value)

/-- A text that is a number and nothing else but blanks. -/
def wholeNumber? (base : Option Nat) (s : String) : Option Int :=
  (numeralAt? base s.toList).bind fun n =>
    if n.fits && n.rest.all isSpace then some n.value else none

/-- The value of a variable in a sum; one without text counts as zero. -/
def variableNumber? (s : String) : Option Int :=
  if s.toList.all isSpace then some 0 else wholeNumber? none s

/-- A number that a command takes as its operand. -/
def operand? (s : String) : Option Nat :=
  (wholeNumber? (some 10) s).bind fun n =>
    if 0 ≤ n ∧ n ≤ 2147483647 then some n.toNat else none

end TraceView.Shell
