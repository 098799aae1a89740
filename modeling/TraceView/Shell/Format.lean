import TraceView.Decimal.Places
import TraceView.Shell.Numeral

/-!
# What `echo` and `printf` write

Both expand backslash escapes. A format is used again until every operand is consumed; operands
that are missing count as empty or zero.
-/

namespace TraceView.Shell

open TraceView.Decimal (Scalar ScalarText scalar? fixed scientific)

/-- Characters to write, and whether an escape has ended the output. -/
structure Expanded where
  chars : List Char
  ended : Bool

def isOctal (c : Char) : Bool := '0' ≤ c && c ≤ '7'

def octalValue (cs : List Char) : Char := Char.ofNat (numberIn 8 cs % 256)

def letterEscape? (c : Char) : Option Char :=
  match c with
  | '\\' => some '\\'
  | 'a' => some '\x07'
  | 'b' => some '\x08'
  | 'e' => some '\x1b'
  | 'f' => some '\x0c'
  | 'n' => some '\n'
  | 'r' => some '\r'
  | 't' => some '\t'
  | 'v' => some '\x0b'
  | _ => none

/-- The escape after a backslash: its character and how many it takes. What is no escape leaves the
backslash. -/
def escape (cs : List Char) : Char × Nat :=
  match cs with
  | [] => ('\\', 0)
  | c :: _ =>
    match letterEscape? c with
    | some b => (b, 1)
    | none =>
      let n := ((cs.take 3).takeWhile isOctal).length
      if n = 0 then ('\\', 0) else (octalValue (cs.take n), n)

/-- In an operand a zero may come before the octal digits. -/
def operandEscape (cs : List Char) : Char × Nat :=
  match cs with
  | '0' :: c :: rest =>
    if isOctal c then
      let (b, n) := escape (c :: rest)
      (b, n + 1)
    else escape cs
  | _ => escape cs

/-- Skips the characters of an escape already taken. -/
def expandOperand (skip : Nat) : List Char → Expanded
  | [] => ⟨[], false⟩
  | c :: cs =>
    match skip with
    | n + 1 => expandOperand n cs
    | 0 =>
      if c = '\\' ∧ cs.head? = some 'c' then ⟨[], true⟩
      else
        let (b, n) := if c = '\\' then operandEscape cs else (c, 0)
        let rest := expandOperand n cs
        { rest with chars := b :: rest.chars }

def echoText (args : List String) : List Char :=
  let (line, words) : List Char × List String := match args with
    | "-n" :: rest => ([], rest)
    | words => (['\n'], words)
  let e := expandOperand 0 (String.intercalate " " words).toList
  if e.ended then e.chars else e.chars ++ line

/-- A width or a precision, which may come from an operand. -/
inductive Amount where
  | number (n : Nat)
  | operand
  deriving DecidableEq, Repr

structure Conversion where
  flags : List Char
  width : Option Amount
  precision : Option Amount
  kind : Char
  deriving DecidableEq, Repr

/-- What is known when a conversion writes its value. -/
structure Layout where
  left : Bool
  zeros : Bool
  plus : Bool
  blank : Bool
  alternate : Bool
  width : Nat
  precision : Option Nat

/-- Fills up with blanks. -/
def Layout.pad (l : Layout) (cs : List Char) : List Char :=
  let fill := List.replicate (l.width - cs.length) ' '
  if l.left then cs ++ fill else fill ++ cs

/-- Fills up with blanks before the sign or with zeros after it. -/
def Layout.padNumber (l : Layout) (zeros : Bool) (sign digits : List Char) : List Char :=
  if zeros && l.zeros && !l.left then
    sign ++ List.replicate (l.width - sign.length - digits.length) '0' ++ digits
  else l.pad (sign ++ digits)

def Layout.sign (l : Layout) (negative : Bool) : List Char :=
  if negative then ['-'] else if l.plus then ['+'] else if l.blank then [' '] else []

def upper (cs : List Char) : List Char := cs.map Char.toUpper

/-- Digits filled up to the precision; zero has none with a precision of zero. -/
def Layout.digits (l : Layout) (base n : Nat) : List Char :=
  if n = 0 && l.precision = some 0 then []
  else Decimal.leftZeros (l.precision.getD 1) (Nat.toDigits base n)

def Layout.integer (l : Layout) (n : Int) : List Char :=
  l.padNumber l.precision.isNone (l.sign (n < 0)) (l.digits 10 n.natAbs)

def Layout.natural (l : Layout) (kind : Char) (n : Nat) : List Char :=
  let base := match kind with
    | 'o' => 8
    | 'x' | 'X' => 16
    | _ => 10
  let ds := l.digits base n
  let lead := if l.alternate && base = 16 && n ≠ 0 then ['0', 'x'] else []
  let ds := if l.alternate && base = 8 && ds.head? ≠ some '0' then '0' :: ds else ds
  let cs := l.padNumber l.precision.isNone lead ds
  if kind = 'X' then upper cs else cs

/-- With a point before the places, if there are any or the flag asks for one. -/
def Layout.pointed (l : Layout) (p : Decimal.Places) : List Char :=
  p.whole ++ (if p.places.isEmpty && !l.alternate then [] else '.' :: p.places)

/-- A power after its letter, in so many digits or more. -/
def powerText (letter : Char) (width : Nat) (power : Int) : List Char :=
  [letter, if power < 0 then '-' else '+'] ++
    Decimal.leftZeros width (Nat.toDigits 10 power.natAbs)

/-- Without the zeros at the end of the places. -/
def trimPlaces (p : Decimal.Places) : Decimal.Places :=
  { p with places := (p.places.reverse.dropWhile (· = '0')).reverse }

def Layout.finite (l : Layout) (kind : Char) (num den : Nat) : List Char :=
  let precision := l.precision.getD 6
  match kind with
  | 'f' => l.pointed (fixed precision num den)
  | 'e' =>
    let (p, power) := scientific precision num den
    l.pointed p ++ powerText 'e' 2 power
  | _ =>
    let digits := max 1 precision
    let (p, power) := scientific (digits - 1) num den
    let trim := if l.alternate then id else trimPlaces
    if -4 ≤ power ∧ power < digits then
      l.pointed (trim (fixed ((digits : Int) - 1 - power).toNat num den))
    else l.pointed (trim p) ++ powerText 'e' 2 power

def Layout.hexadecimal (l : Layout) (d : Double) : List Char :=
  let (p, power) := Decimal.hexadecimal l.precision d
  l.padNumber true (l.sign d.negative ++ ['0', 'x']) (l.pointed p ++ powerText 'p' 1 power)

def Layout.real (l : Layout) (kind : Char) (x : Scalar) : List Char :=
  let cs := match x with
    | .finite d =>
      if kind.toLower = 'a' then l.hexadecimal d
      else l.padNumber true (l.sign d.negative) (l.finite kind.toLower d.ratio.1 d.ratio.2)
    | .infinite negative => l.padNumber false (l.sign negative) "inf".toList
    | .undefined => l.padNumber false (l.sign false) "nan".toList
  if kind.isUpper then upper cs else cs

inductive FormatItem where
  | char (c : Char)
  | convert (v : Conversion)
  /-- The format cannot be used from here on. -/
  | flaw (text : String)
  deriving DecidableEq, Repr

/-- An amount at the front, and how many characters it takes. -/
def amount (cs : List Char) : Option Amount × Nat :=
  match cs with
  | '*' :: rest => (some .operand, 1 + (rest.takeWhile Char.isDigit).length)
  | cs =>
    let ds := cs.takeWhile Char.isDigit
    (if ds.isEmpty then none else some (.number (numberIn 10 ds)), ds.length)

def conversionKinds : List Char :=
  ['b', 'c', 's', 'd', 'i', 'o', 'u', 'x', 'X', 'a', 'A', 'e', 'E', 'f', 'F', 'g', 'G']

/-- What follows a percent sign, and how many characters it takes. -/
def conversion (cs : List Char) : FormatItem × Nat :=
  let flags := cs.takeWhile fun c => c = '-' || c = '0' || c = '+' || c = ' ' || c = '#'
  let (width, n) := amount (cs.drop flags.length)
  let taken := flags.length + n
  let (precision, n) := match cs.drop taken with
    | '.' :: more =>
      let (p, n) := amount more
      (some (p.getD (.number 0)), n + 1)
    | _ => (none, 0)
  let taken := taken + n
  match cs.drop taken with
  | kind :: _ =>
    if conversionKinds.contains kind then (.convert ⟨flags, width, precision, kind⟩, taken + 1)
    else (.flaw (String.ofList ('%' :: cs.take (taken + 1)) ++ ": invalid directive"), taken + 1)
  | [] => (.flaw "missing format character", taken)

def formatItemsFrom (skip : Nat) : List Char → List FormatItem
  | [] => []
  | c :: cs =>
    match skip with
    | n + 1 => formatItemsFrom n cs
    | 0 =>
      if c = '%' then
        if cs.head? = some '%' then .char '%' :: formatItemsFrom 1 cs
        else
          let (item, n) := conversion cs
          item :: formatItemsFrom n cs
      else if c = '\\' then
        let (b, n) := escape cs
        .char b :: formatItemsFrom n cs
      else .char c :: formatItemsFrom 0 cs

def formatItems (format : String) : List FormatItem := formatItemsFrom 0 format.toList

/-- Operands that are left, the text so far in reverse, and what was wrong with operands, the last
first. -/
structure Printing where
  operands : List String
  text : List Char
  complaints : List String
  ended : Bool
  flaw : Option String

namespace Printing

def nextOperand (p : Printing) : Option String × Printing :=
  (p.operands.head?, { p with operands := p.operands.tail })

def complain (p : Printing) (text : String) : Printing :=
  { p with complaints := text :: p.complaints }

def write (p : Printing) (cs : List Char) : Printing :=
  { p with text := cs.reverse ++ p.text }

/-- A complaint about an operand that was not read to its end, or is out of range. -/
def check (p : Printing) (s : String) (read : Bool) (rest : List Char) (outOfRange : Bool) :
    Printing :=
  if rest ≠ [] then
    p.complain (s ++ if read then ": not completely converted" else ": expected numeric value")
  else if outOfRange then p.complain (s ++ ": Numerical result out of range")
  else p

/-- The number of the character after a quote at the front of an operand. -/
def quotedChar? (s : String) : Option Nat :=
  match s.toList with
  | c :: cs => if c = '\'' || c = '"' then some (cs.head?.elim 0 Char.toNat) else none
  | [] => none

def integer (p : Printing) : Int × Printing :=
  match p.nextOperand with
  | (none, p) => (0, p)
  | (some s, p) =>
    match quotedChar? s, numeralAt? none s.toList with
    | some n, _ => (n, p)
    | none, some n => (n.clamped, p.check s true n.rest !n.fits)
    | none, none => (0, p.check s false s.toList false)

/-- Negative numbers count from the top of the range. -/
def natural (p : Printing) : Nat × Printing :=
  match p.nextOperand with
  | (none, p) => (0, p)
  | (some s, p) =>
    match quotedChar? s, numeralAt? none s.toList with
    | some n, _ => (n, p)
    | none, some n =>
      let fits := n.magnitude ≤ Text.wordMax
      let value := if !fits then Text.wordMax
        else if n.negative && n.magnitude ≠ 0 then Text.wordMax + 1 - n.magnitude
        else n.magnitude
      (value, p.check s true n.rest !fits)
    | none, none => (0, p.check s false s.toList false)

def real (p : Printing) : Scalar × Printing :=
  match p.nextOperand with
  | (none, p) => (.finite (Double.zero false), p)
  | (some s, p) =>
    match quotedChar? s, scalar? s.toList with
    | some n, _ => (.finite ((Double.ofRatio? false n 1).getD (.zero false)), p)
    | none, some t => (t.value, p.check s true t.rest t.outOfRange)
    | none, none => (.finite (.zero false), p.check s false s.toList false)

/-- The value of an amount, if there is one; an operand counts in 32 bits. -/
def amountOf (p : Printing) (a : Option Amount) : Option Int × Printing :=
  match a with
  | none => (none, p)
  | some (.number n) => (some n, p)
  | some .operand =>
    let (n, p) := p.integer
    (some (n.bmod 4294967296), p)

/-- A negative width asks for the left side, a negative precision for none. -/
def layout (p : Printing) (v : Conversion) : Layout × Printing :=
  let (width, p) := p.amountOf v.width
  let (precision, p) := p.amountOf v.precision
  (⟨v.flags.contains '-' || width.any (· < 0), v.flags.contains '0', v.flags.contains '+',
    v.flags.contains ' ', v.flags.contains '#', (width.getD 0).natAbs,
    (precision.filter (0 ≤ ·)).map Int.toNat⟩, p)

def convert (p : Printing) (v : Conversion) : Printing :=
  let (l, p) := p.layout v
  let cut := fun cs : List Char => l.precision.elim cs cs.take
  match v.kind with
  | 'd' | 'i' =>
    let (n, p) := p.integer
    p.write (l.integer n)
  | 'o' | 'u' | 'x' | 'X' =>
    let (n, p) := p.natural
    p.write (l.natural v.kind n)
  | 'c' =>
    let (s, p) := p.nextOperand
    p.write (l.pad [(s.bind (·.toList.head?)).getD '\x00'])
  | 's' =>
    let (s, p) := p.nextOperand
    p.write (l.pad (cut (s.getD "").toList))
  | 'b' =>
    let (s, p) := p.nextOperand
    let e := expandOperand 0 (s.getD "").toList
    { p.write (l.pad (cut e.chars)) with ended := e.ended }
  | kind =>
    let (x, p) := p.real
    p.write (l.real kind x)

def item (p : Printing) (i : FormatItem) : Printing :=
  if p.ended || p.flaw.isSome then p
  else match i with
    | .char c => p.write [c]
    | .convert v => p.convert v
    | .flaw text => { p with flaw := some text }

/-- Uses the format until the operands are consumed, or once if it consumes none. -/
def uses (items : List FormatItem) : Nat → Printing → Printing
  | 0, p => p
  | fuel + 1, p =>
    let q := items.foldl item p
    if q.ended || q.flaw.isSome || q.operands.isEmpty || q.operands.length = p.operands.length then q
    else uses items fuel q

end Printing

def printfText (format : String) (operands : List String) : Printing :=
  Printing.uses (formatItems format) (operands.length + 1) ⟨operands, [], [], false, none⟩

end TraceView.Shell
