/-!
# Numerals

Decimal numerals in ASCII digits, read with an upper bound, and hexadecimal ones.
-/

namespace TraceView.Text

def digitValue? (c : Char) : Option Nat :=
  if '0' ≤ c ∧ c ≤ '9' then some (c.toNat - '0'.toNat) else none

def isAsciiDigit (c : Char) : Bool :=
  '0' ≤ c && c ≤ '9'

/-- The number that the digits spell, or `none` if some character is no ASCII digit. -/
def digitsValue? (ds : List Char) : Option Nat :=
  ds.foldlM (fun n c => (digitValue? c).map (n * 10 + ·)) 0

/-- The largest number of 64 bits. -/
def wordMax : Nat := 18446744073709551615

/-- A non-empty numeral whose value fits 64 bits. -/
def wordValue? (ds : List Char) : Option Nat :=
  match ds, digitsValue? ds with
  | _ :: _, some n => if n ≤ wordMax then some n else none
  | _, _ => none

/-- The same, with a plus sign allowed in front. -/
def signedWordValue? : List Char → Option Nat
  | '+' :: ds => wordValue? ds
  | ds => wordValue? ds

def hexValue? (c : Char) : Option Nat :=
  if '0' ≤ c ∧ c ≤ '9' then some (c.toNat - '0'.toNat)
  else if 'a' ≤ c ∧ c ≤ 'f' then some (c.toNat - 'a'.toNat + 10)
  else if 'A' ≤ c ∧ c ≤ 'F' then some (c.toNat - 'A'.toNat + 10)
  else none

def hexDigits (n : Nat) : List Char :=
  Nat.toDigits 16 n

/-- `width` hexadecimal digits, filled up with zeros. -/
def hexPadded (width n : Nat) : List Char :=
  let ds := hexDigits n
  List.replicate (width - ds.length) '0' ++ ds

end TraceView.Text
