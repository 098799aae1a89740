import TraceView.Decimal.Double
import TraceView.Text.Numeral

/-!
# Decimals with a given number of places

A ratio is written with so many places after the point, rounded to the nearest, a tie to the even
digit; or with one digit before the point and a power of ten. Both are exact, whatever the size.
-/

namespace TraceView.Decimal

open TraceView (Double)

/-- Digits before and after the point. -/
structure Places where
  whole : List Char
  places : List Char
  deriving DecidableEq, Repr

def leftZeros (width : Nat) (ds : List Char) : List Char :=
  List.replicate (width - ds.length) '0' ++ ds

/-- A number of units of the last place. -/
def Places.ofUnits (count units : Nat) : Places :=
  let ds := leftZeros (count + 1) (Nat.toDigits 10 units)
  ⟨ds.take (ds.length - count), ds.drop (ds.length - count)⟩

/-- With `count` places. -/
def fixed (count num den : Nat) : Places :=
  .ofUnits count (Double.roundDiv (num * Double.tenTo count) den)

/-- The power of ten of the leading digit, found from the lengths of both numbers. -/
def leadingPower (num den : Nat) : Int :=
  let guess : Int := (Nat.toDigits 10 num).length - (Nat.toDigits 10 den).length
  let reaches := if 0 ≤ guess then den * Double.tenTo guess.toNat ≤ num
    else den ≤ num * Double.tenTo (-guess).toNat
  if reaches then guess else guess - 1

/-- With one digit before the point and `count` after it, and the power of ten. -/
def scientific (count num den : Nat) : Places × Int :=
  if num = 0 then (.ofUnits count 0, 0)
  else
    let power := leadingPower num den
    let scale := (count : Int) - power
    let units := if 0 ≤ scale then Double.roundDiv (num * Double.tenTo scale.toNat) den
      else Double.roundDiv num (den * Double.tenTo (-scale).toNat)
    if units = Double.tenTo (count + 1) then (.ofUnits count (units / 10), power + 1)
    else (.ofUnits count units, power)

/-- Hexadecimal digits with one before the point, and the power of two. All digits without zeros at
the end, or so many after the point. -/
def hexadecimal (count : Option Nat) (x : Double) : Places × Int :=
  let held := 13
  let wanted := count.getD held
  let units := if wanted < held then Double.roundDiv x.mantissa (Nat.pow 16 (held - wanted))
    else x.mantissa * Nat.pow 16 (wanted - held)
  let ds := leftZeros (wanted + 1) (Nat.toDigits 16 units)
  let places := ds.drop (ds.length - wanted)
  let places := if count.isSome then places else (places.reverse.dropWhile (· = '0')).reverse
  (⟨ds.take (ds.length - wanted), places⟩, if x.isZero then 0 else x.exponent + 52)

/-- A number at the front of a text, and the text after it. -/
inductive Scalar where
  | finite (x : Double)
  | infinite (negative : Bool)
  | undefined
  deriving Repr

structure ScalarText where
  value : Scalar
  /-- Did the number lie beyond the range of doubles? -/
  outOfRange : Bool
  rest : List Char
  deriving Repr

/-- Digits around a point, and the text after them; none without digits. -/
structure Mantissa where
  value : Nat
  /-- How many of the digits stood after the point. -/
  places : Nat
  rest : List Char

def digitsIn (base : Nat) (cs : List Char) : List Char :=
  cs.takeWhile fun c => (Text.hexValue? c).any (· < base)

def valueIn (base : Nat) (ds : List Char) : Nat :=
  ds.foldl (fun n c => n * base + (Text.hexValue? c).getD 0) 0

def mantissa? (base : Nat) (cs : List Char) : Option Mantissa :=
  let whole := digitsIn base cs
  let after := cs.drop whole.length
  let places := if after.head? = some '.' then digitsIn base after.tail else []
  if whole.isEmpty && places.isEmpty then none
  else
    let rest := if after.head? = some '.' then after.tail.drop places.length else after
    some ⟨valueIn base (whole ++ places), places.length, rest⟩

/-- A power after one of these letters, if digits follow it. -/
def power? (letters : List Char) (cs : List Char) : Option (Int × List Char) :=
  match cs with
  | c :: rest =>
    if letters.contains c then
      let (negative, rest) := match rest with
        | '-' :: more => (true, more)
        | '+' :: more => (false, more)
        | more => (false, more)
      let ds := digitsIn 10 rest
      if ds.isEmpty then none
      else
        let n : Int := valueIn 10 ds
        some (if negative then -n else n, rest.drop ds.length)
    else none
  | [] => none

/-- Powers beyond this one are all alike. -/
def powerLimit : Int := 10000

def clampPower (n : Int) : Int := max (-powerLimit) (min powerLimit n)

/-- `value * base ^ power` as a double. -/
def scalarOf (negative : Bool) (base value : Nat) (power : Int) (rest : List Char) : ScalarText :=
  let power := clampPower power
  let scale := Nat.pow base power.natAbs
  let (num, den) := if 0 ≤ power then (value * scale, 1) else (value, scale)
  match Double.ofRatio? negative num den with
  | some x => ⟨.finite x, x.isZero && value ≠ 0, rest⟩
  | none => ⟨.infinite negative, true, rest⟩

/-- Does the text begin with the word, whatever the case of its letters? -/
def afterWord? (word : String) (cs : List Char) : Option (List Char) :=
  let n := word.length
  if (cs.take n).map Char.toLower = word.toList then some (cs.drop n) else none

def unsigned? (negative : Bool) (cs : List Char) : Option ScalarText :=
  match (afterWord? "infinity" cs).or (afterWord? "inf" cs), afterWord? "nan" cs with
  | some rest, _ => some ⟨.infinite negative, false, rest⟩
  | _, some rest => some ⟨.undefined, false, rest⟩
  | none, none =>
    match (afterWord? "0x" cs).bind (mantissa? 16) with
    | some m =>
      let (power, rest) := (power? ['p', 'P'] m.rest).getD (0, m.rest)
      some (scalarOf negative 2 m.value (power - 4 * m.places) rest)
    | none =>
      (mantissa? 10 cs).map fun m =>
        let (power, rest) := (power? ['e', 'E'] m.rest).getD (0, m.rest)
        scalarOf negative 10 m.value (power - m.places) rest

def scalar? (cs : List Char) : Option ScalarText :=
  match cs.dropWhile fun c => c = ' ' || ('\t' ≤ c && c ≤ '\r') with
  | '-' :: cs => unsigned? true cs
  | '+' :: cs => unsigned? false cs
  | cs => unsigned? false cs

end TraceView.Decimal
