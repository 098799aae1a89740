import TraceView.Decimal.Double

/-!
# The shortest decimal of a double

Of the decimals that round to a double those with the fewest digits are taken, and of them the one
nearest to it. The digits come with the power of ten of the first one; how they are laid out is a
matter of the format that writes them.
-/

namespace TraceView

/-- The value `d.ddd * 10 ^ exponent`; the first digit is not zero. -/
structure Digits where
  digits : List Char
  exponent : Int
  deriving DecidableEq, Repr

namespace Double

/-- Least and greatest number that round to a double, and the double itself, over one
denominator; the ends belong to it when the mantissa is even. -/
structure Interval where
  low : Nat
  mid : Nat
  high : Nat
  den : Nat
  closed : Bool

def interval (x : Double) : Interval :=
  let m := x.mantissa
  let below := if m = twoTo 52 ∧ leastExponent < x.exponent then 1 else 2
  let e := x.exponent - 2
  let up := twoTo e.toNat
  ⟨(4 * m - below) * up, 4 * m * up, (4 * m + 2) * up, twoTo (-e).toNat, m % 2 = 0⟩

def Interval.has (i : Interval) (num den : Nat) : Bool :=
  let v := num * i.den
  if i.closed then i.low * den ≤ v && v ≤ i.high * den
  else i.low * den < v && v < i.high * den

/-- The power of ten of the first digit of `num / den`, for a number above zero. -/
def leadingPower (num den : Nat) : Int :=
  if den ≤ num then ((Nat.toDigits 10 (num / den)).length : Int) - 1
  else
    match (List.range 400).find? fun j => den ≤ num * tenTo j with
    | some j => -(j : Int)
    | none => 0

/-- The point `n * 10 ^ power` as a ratio. -/
def gridPoint (n : Nat) (power : Int) : Nat × Nat :=
  if power ≤ 0 then (n, tenTo (-power).toNat) else (n * tenTo power.toNat, 1)

/-- The neighbour of the double with `count` digits that rounds to it, the nearer one if both do. -/
def neighbour? (i : Interval) (lead : Int) (count : Nat) : Option Nat :=
  let power := lead - (count - 1 : Nat)
  let (num, den) := if power ≤ 0 then (i.mid * tenTo (-power).toNat, i.den)
    else (i.mid, i.den * tenTo power.toNat)
  let n := num / den
  let twice := 2 * (num % den)
  let hit := fun n => let (a, b) := gridPoint n power; i.has a b
  match hit n, hit (n + 1) with
  | true, true => some (if twice < den ∨ (twice = den ∧ n % 2 = 0) then n else n + 1)
  | true, false => some n
  | false, true => some (n + 1)
  | false, false => none

/-- Digits and leading power of `n * 10 ^ power`, without trailing zeros. -/
def Digits.ofGrid (n : Nat) (power : Int) : Digits :=
  let ds := Nat.toDigits 10 n
  let cut := (ds.reverse.dropWhile (· = '0')).reverse
  ⟨if cut = [] then ['0'] else cut, power + (ds.length - 1 : Nat)⟩

/-- Seventeen digits always suffice. -/
def shortest (x : Double) : Digits :=
  if x.isZero then ⟨['0'], 0⟩
  else
    let i := x.interval
    let lead := leadingPower i.mid i.den
    match (List.range 17).findSome? fun k =>
      (neighbour? i lead (k + 1)).map fun n => Digits.ofGrid n (lead - (k : Int)) with
    | some d => d
    | none => ⟨['0'], 0⟩

end Double

/-- How a format lays digits out. -/
structure DecimalLayout where
  /-- Leading powers that are written positionally. -/
  positional : Int → Bool
  /-- Is a whole number given a fraction part? -/
  keepsPoint : Bool
  /-- What separates the digits from an exponent of either sign. -/
  exponentMark : Int → String

namespace DecimalLayout

def positionalText (keepsPoint : Bool) (d : Digits) : List Char :=
  let n := d.digits.length
  if d.exponent < 0 then
    ['0', '.'] ++ List.replicate ((-d.exponent).toNat - 1) '0' ++ d.digits
  else
    let whole := d.exponent.toNat + 1
    if whole < n then d.digits.take whole ++ '.' :: d.digits.drop whole
    else d.digits ++ List.replicate (whole - n) '0' ++ if keepsPoint then ['.', '0'] else []

def scientificText (mark : String) (d : Digits) : List Char :=
  (match d.digits with
    | [] => []
    | [c] => [c]
    | c :: more => c :: '.' :: more) ++ mark.toList ++ Nat.toDigits 10 d.exponent.natAbs

def write (layout : DecimalLayout) (x : Double) : String :=
  let d := x.shortest
  String.ofList ((if x.negative then ['-'] else []) ++
    if layout.positional d.exponent then positionalText layout.keepsPoint d
    else scientificText (layout.exponentMark d.exponent) d)

/-- Every digit is written out, a whole number with `.0`. -/
def fullWithPoint : DecimalLayout := ⟨fun _ => true, true, fun _ => ""⟩

end DecimalLayout

end TraceView
