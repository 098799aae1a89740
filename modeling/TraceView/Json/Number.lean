import TraceView.Decimal.Shortest
import TraceView.Json.Value
import TraceView.Text.Numeral

/-!
# JSON numbers

Reading keeps a significand of 64 bits: the digits up to the first that does not fit count, later
ones only move the decimal point. A significand with a point or an exponent is rounded to a double
first and then scaled by a rounded power of ten, so the double nearest to the numeral is not always
the one read. Numerals past the largest double have no value.
-/

namespace TraceView.Json

/-- The parts of a numeral. -/
structure Numeral where
  negative : Bool
  whole : List Nat
  fraction : List Nat
  /-- Is the exponent negative, and its size. -/
  exponent : Option (Bool × Nat)
  deriving Repr

/-- Takes digits while the significand fits; returns it with the number of digits taken. -/
def absorb (significand : Nat) : List Nat → Nat × Nat
  | [] => (significand, 0)
  | d :: ds =>
    if significand * 10 + d ≤ Text.wordMax then
      let (s, n) := absorb (significand * 10 + d) ds
      (s, n + 1)
    else (significand, 0)

def powerOfTen (k : Nat) : Double :=
  (Double.ofRatio? false (Double.tenTo k) 1).getD (Double.zero false)

/-- The largest power of ten that is a double. -/
def largestPower : Nat := 308

/-- Divides by `10 ^ k`, in steps that each divide by a double. -/
def scaleDown (x : Double) (k : Nat) : Double :=
  if k ≤ largestPower then (x.div? (powerOfTen k)).getD x
  else if x.isZero then x
  else scaleDown ((x.div? (powerOfTen largestPower)).getD x) (k - largestPower)
  termination_by k
  decreasing_by
    simp only [largestPower] at *
    omega

def scaleUp? (x : Double) (k : Nat) : Option Double :=
  if k ≤ largestPower then x.mul? (powerOfTen k)
  else if x.isZero then some x
  else none

def scale? (x : Double) (k : Int) : Option Double :=
  if 0 ≤ k then scaleUp? x k.toNat else some (scaleDown x (-k).toNat)

/-- Exponents from here on are not told apart: the value is zero or out of range. -/
def exponentLimit : Nat := 2147483648

/-- An exponent with one more digit. -/
def pushExponent (e d : Nat) : Nat := min (e * 10 + d) exponentLimit

def real? (negative : Bool) (significand : Nat) (exponent : Int) : Option Double := do
  let x ← Double.ofRatio? false significand 1
  let y ← scale? x exponent
  pure { y with negative }

def Numeral.real? (n : Numeral) (significand : Nat) (shift : Int) : Option Double :=
  match n.exponent with
  | none => Json.real? n.negative significand shift
  | some (down, e) =>
    if exponentLimit ≤ e then
      if significand ≠ 0 && !down then none else some (Double.zero n.negative)
    else Json.real? n.negative significand (if down then shift - e else shift + e)

/-- None if the numeral is out of range. -/
def Numeral.value? (n : Numeral) : Option Number :=
  let (s, taken) := absorb 0 n.whole
  let skipped := n.whole.length - taken
  match n.fraction, n.exponent, skipped with
  | [], none, 0 =>
    if !n.negative then some (.whole s)
    else if s ≠ 0 && s ≤ 9223372036854775808 then some (.whole (-(s : Int)))
    else (Json.real? true s 0).map .real
  | fraction, _, _ =>
    let (s, places) := absorb s fraction
    (n.real? s ((skipped : Int) - places)).map .real

/-- Doubles from `0.00001` up to sixteen digits before the point are written positionally, and
always with a fraction part. -/
def layout : DecimalLayout where
  positional e := -5 ≤ e && e < 16
  keepsPoint := true
  exponentMark e := if e < 0 then "e-" else "e+"

def Number.text : Number → String
  | .whole n => toString n
  | .real x => layout.write x

end TraceView.Json
