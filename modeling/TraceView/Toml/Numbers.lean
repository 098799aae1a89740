import TraceView.Text.Numeral
import TraceView.Toml.Scan
import TraceView.Toml.Value

/-!
# TOML numbers and dates

Integers have 64 bits. A number with a point or an exponent is the double nearest to it; one past
the largest is refused unless it is negative. Dates and times are checked, not kept.
-/

namespace TraceView.Toml

def digitsNat (ds : List Char) : Nat :=
  (Text.digitsValue? ds).getD 0

def radixNat (radix : Nat) (ds : List Char) : Nat :=
  ds.foldl (fun n d => n * radix + (Text.hexValue? d).getD 0) 0

def isDigitOf (radix : Nat) (c : Char) : Bool :=
  (Text.hexValue? c).any (· < radix)

/-- A sign and what follows it. -/
def sign (cs : List Char) : Bool × List Char :=
  match cs with
  | '+' :: cs => (false, cs)
  | '-' :: cs => (true, cs)
  | cs => (false, cs)

/-- Integers have 64 bits, one of them for the sign. -/
def integerInRange? (n : Int) : Option Toml :=
  if -9223372036854775808 ≤ n ∧ n < 9223372036854775808 then some (.integer n) else none

def radixInteger? (radix : Nat) (cs : List Char) : Option (Toml × List Char) := do
  let (ds, cs) ← grouped? (isDigitOf radix) cs
  return (← integerInRange? (radixNat radix ds), cs)

/-- Digits before the point: no zero in front of others. -/
def wholeDigits? : Scan (List Char)
  | '0' :: cs => some (['0'], cs)
  | cs => grouped? Text.isAsciiDigit cs

def fraction? : Scan (List Char)
  | '.' :: cs => grouped? Text.isAsciiDigit cs
  | _ => none

def exponent? : Scan Int
  | c :: cs =>
    if c = 'e' ∨ c = 'E' then do
      let (negative, cs) := sign cs
      let (ds, cs) ← grouped? Text.isAsciiDigit cs
      return (if negative then -(digitsNat ds : Int) else digitsNat ds, cs)
    else none
  | [] => none

/-- Beyond these powers of ten a number of few digits is zero or infinite. -/
def realOf (negative : Bool) (digits : List Char) (power : Int) : Real :=
  let n := digitsNat digits
  let size := (digits.dropWhile (· = '0')).length + power
  if n = 0 ∨ size < -400 then .finite (Double.zero negative)
  else if 400 < size then .infinite negative
  else
    let x := if power ≤ 0 then Double.ofRatio? negative n (Double.tenTo (-power).toNat)
      else Double.ofRatio? negative (n * Double.tenTo power.toNat) 1
    (x.map .finite).getD (.infinite negative)

def realInRange? (x : Real) : Option Toml :=
  if x = .infinite false then none else some (.real x)

def decimal? (cs : List Char) : Option (Toml × List Char) := do
  let (negative, cs) := sign cs
  let (whole, cs) ← wholeDigits? cs
  let (places, afterPoint) := (fraction? cs).getD ([], cs)
  match places, exponent? afterPoint with
  | [], none =>
    let n : Int := digitsNat whole
    return (← integerInRange? (if negative then -n else n), cs)
  | places, power =>
    let (power, cs) := power.getD (0, afterPoint)
    return (← realInRange? (realOf negative (whole ++ places) (power - places.length)), cs)

def specialReal? (cs : List Char) : Option (Toml × List Char) :=
  match sign cs with
  | (negative, 'i' :: 'n' :: 'f' :: cs) => some (.real (.infinite negative), cs)
  | (_, 'n' :: 'a' :: 'n' :: cs) => some (.real .notANumber, cs)
  | _ => none

def number? (cs : List Char) : Option (Toml × List Char) :=
  match cs with
  | '0' :: 'x' :: cs => radixInteger? 16 cs
  | '0' :: 'o' :: cs => radixInteger? 8 cs
  | '0' :: 'b' :: cs => radixInteger? 2 cs
  | cs => (specialReal? cs).or (decimal? cs)

/-- A number of exactly `width` digits within bounds. -/
def field? (width low high : Nat) (cs : List Char) : Option (Nat × List Char) :=
  let ds := cs.take width
  if ds.length = width ∧ ds.all Text.isAsciiDigit ∧ low ≤ digitsNat ds ∧ digitsNat ds ≤ high then
    some (digitsNat ds, cs.drop width)
  else none

def isLeapYear (year : Nat) : Bool :=
  year % 4 = 0 && (year % 100 ≠ 0 || year % 400 = 0)

def daysInMonth (year month : Nat) : Nat :=
  if month = 2 then if isLeapYear year then 29 else 28
  else if month = 4 ∨ month = 6 ∨ month = 9 ∨ month = 11 then 30
  else 31

def date? (cs : List Char) : Option (List Char) := do
  let (year, cs) ← field? 4 0 9999 cs
  let cs ← char? '-' cs
  let (month, cs) ← field? 2 1 12 cs
  let cs ← char? '-' cs
  let (_, cs) ← field? 2 1 (daysInMonth year month) cs
  return cs

def secondsFraction? : List Char → Option (List Char)
  | '.' :: cs =>
    if (cs.head?.map Text.isAsciiDigit).getD false then some (cs.dropWhile Text.isAsciiDigit)
    else none
  | cs => some cs

def time? (cs : List Char) : Option (List Char) := do
  let (_, cs) ← field? 2 0 23 cs
  let cs ← char? ':' cs
  let (_, cs) ← field? 2 0 59 cs
  let cs ← char? ':' cs
  let (_, cs) ← field? 2 0 60 cs
  secondsFraction? cs

def offset? : List Char → Option (List Char)
  | 'Z' :: cs | 'z' :: cs => some cs
  | '+' :: cs | '-' :: cs => do
    let (_, cs) ← field? 2 0 23 cs
    let cs ← char? ':' cs
    let (_, cs) ← field? 2 0 59 cs
    return cs
  | cs => some cs

/-- Two digits and a colon are taken for a time. -/
def looksLikeTime (cs : List Char) : Bool :=
  match cs with
  | a :: b :: ':' :: _ => Text.isAsciiDigit a && Text.isAsciiDigit b
  | _ => false

def looksLikeDate (cs : List Char) : Bool :=
  match cs with
  | a :: b :: c :: d :: '-' :: _ => [a, b, c, d].all Text.isAsciiDigit
  | _ => false

/-- What follows a date, a time or both. -/
def dateTime? (cs : List Char) : Option (List Char) :=
  if looksLikeTime cs then time? cs
  else do
    let cs ← date? cs
    match cs with
    | d :: more =>
      if d = 'T' ∨ d = 't' ∨ (d = ' ' ∧ looksLikeTime more) then
        if looksLikeTime more then time? more >>= offset? else none
      else return cs
    | [] => return []

def numberOrDate? (cs : List Char) : Option (Toml × List Char) :=
  if looksLikeDate cs || looksLikeTime cs then (dateTime? cs).map (.date, ·) else number? cs

end TraceView.Toml
