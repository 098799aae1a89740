/-!
# Finite doubles

A finite double is a sign, a mantissa and a power of two, in exact arithmetic: no operation of the
machine's floating point is used. Rounding takes the nearest double, a tie the one with an even
mantissa. Infinities are the missing result of rounding.
-/

namespace TraceView

/-- The number `mantissa * 2 ^ exponent`, negated if `negative`. -/
structure Double where
  negative : Bool
  mantissa : Nat
  exponent : Int
  deriving DecidableEq, Repr

namespace Double

def twoTo (n : Nat) : Nat := Nat.pow 2 n

def tenTo (n : Nat) : Nat := Nat.pow 10 n

def leastExponent : Int := -1074

def greatestExponent : Int := 971

def zero (negative : Bool) : Double := ⟨negative, 0, leastExponent⟩

/-- Numerator and denominator of `num / den / 2 ^ e`. -/
def scaled (num den : Nat) (e : Int) : Nat × Nat :=
  if e ≤ 0 then (num * twoTo (-e).toNat, den) else (num, den * twoTo e.toNat)

/-- The nearest natural number, an even one on a tie. -/
def roundDiv (num den : Nat) : Nat :=
  let q := num / den
  let twice := 2 * (num % den)
  if twice < den ∨ (twice = den ∧ q % 2 = 0) then q else q + 1

/-- The power of two whose multiples are the doubles around `num / den`. -/
def unitExponent (num den : Nat) : Int :=
  let guess : Int := (Nat.log2 num : Int) - (Nat.log2 den : Int) - 52
  let (n, d) := scaled num den guess
  max leastExponent (if n / d < twoTo 52 then guess - 1 else guess)

/-- The double nearest to `num / den`; none if it lies past the largest. -/
def ofRatio? (negative : Bool) (num den : Nat) : Option Double :=
  if num = 0 ∨ den = 0 then some (zero negative)
  else
    let e := unitExponent num den
    let (n, d) := scaled num den e
    let m := roundDiv n d
    let (m, e) := if m = twoTo 53 then (twoTo 52, e + 1) else (m, e)
    if greatestExponent < e then none else some ⟨negative, m, e⟩

/-- The absolute value as a ratio. -/
def ratio (x : Double) : Nat × Nat :=
  if x.exponent ≤ 0 then (x.mantissa, twoTo (-x.exponent).toNat)
  else (x.mantissa * twoTo x.exponent.toNat, 1)

def isZero (x : Double) : Bool := x.mantissa = 0

def mul? (x y : Double) : Option Double :=
  let (a, b) := x.ratio
  let (c, d) := y.ratio
  ofRatio? (x.negative != y.negative) (a * c) (b * d)

/-- None also when dividing by zero. -/
def div? (x y : Double) : Option Double :=
  let (a, b) := x.ratio
  let (c, d) := y.ratio
  if c = 0 then none else ofRatio? (x.negative != y.negative) (a * d) (b * c)

def negate (x : Double) : Double := { x with negative := !x.negative }

end Double

end TraceView
