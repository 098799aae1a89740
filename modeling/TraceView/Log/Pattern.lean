import TraceView.Text.Alphanumeric
import TraceView.Text.Blank
import TraceView.Text.DecimalDigit
import TraceView.Text.Numeral
import TraceView.Text.WordChar

/-!
# Patterns for values

A directive may ask for a value that matches a pattern. No line has such a value, so patterns are
never matched; but a text that is none spoils the filter it is in. Groups, classes, repetition and
escapes are read as far as it takes to tell, and how deeply they nest is counted. A closing brace
ends the field that a pattern stands in, so nothing that needs one is ever complete.
-/

namespace TraceView.Log.Pattern

/-- How the rest of a group is read. -/
structure Mode where
  /-- Blanks and comments do not count. -/
  loose : Bool
  /-- The pattern is about characters, not about bytes. -/
  wide : Bool
  deriving DecidableEq, Repr

/-- What an escape stands for: a character, one of several, or a place between two. -/
inductive Atom where
  | char (c : Char)
  | set
  | place
  deriving DecidableEq, Repr

/-- Blanks and comments; at most `bound` of them. -/
def skipLoose : (bound : Nat) → List Char → List Char
  | bound + 1, c :: cs =>
    if Text.isBlank c then skipLoose bound cs
    else if c = '#' then skipLoose bound ((cs.dropWhile (· ≠ '\n')).drop 1)
    else c :: cs
  | _, cs => cs

def Mode.skip (m : Mode) (cs : List Char) : List Char :=
  if m.loose then skipLoose cs.length cs else cs

def isAscii (c : Char) : Bool := c.toNat < 0x80

/-- Pieces in a row: how many there are, and how deeply the deepest of them is nested. -/
structure Row where
  count : Nat
  depth : Nat
  deriving DecidableEq, Repr

def Row.empty : Row := ⟨0, 0⟩

def Row.add (r : Row) (depth : Nat) : Row := ⟨r.count + 1, max r.depth depth⟩

/-- A row of several pieces is a nesting of its own. -/
def Row.nesting (r : Row) : Nat := if r.count ≤ 1 then r.depth else r.depth + 1

/-- What has two sides is one, too. -/
def joined (left : Option Nat) (right : Nat) : Nat :=
  match left with
  | none => right
  | some left => max left right + 1

/-- That many hexadecimal digits. -/
def hexFrom (m : Mode) (value : Nat) : (count : Nat) → List Char → Option (Nat × List Char)
  | 0, cs => some (value, cs)
  | count + 1, cs =>
    match m.skip cs with
    | [] => none
    | c :: cs => do hexFrom m (value * 16 + (← Text.hexValue? c)) count cs

/-- A character by its number; of bytes only those that are characters. -/
def numbered? (m : Mode) (width : Nat) (cs : List Char) : Option (Atom × List Char) := do
  let (n, cs) ← hexFrom m 0 width cs
  if n.isValidChar && (m.wide || width != 2 || n < 0x80) then return (.char (Char.ofNat n), cs)
  else none

/-- General categories have one letter. -/
def isCategory (c : Char) : Bool :=
  ['C', 'L', 'M', 'N', 'P', 'S', 'Z'].contains c.toUpper

def control? : Char → Option Char
  | 'a' => some '\x07'
  | 'f' => some '\x0c'
  | 'n' => some '\n'
  | 'r' => some '\r'
  | 't' => some '\t'
  | 'v' => some '\x0b'
  | _ => none

/-- May a backslash stand before it without changing its meaning? -/
def isGuardable (c : Char) : Bool :=
  isAscii c && !c.isAlphanum && c != '<' && c != '>'

/-- What follows a backslash. A set of bytes must not reach past the characters, and ends of words
are known for bytes only. -/
def escape? (m : Mode) : List Char → Option (Atom × List Char)
  | [] => none
  | c :: cs =>
    match c with
    | 'x' => numbered? m 2 cs
    | 'u' => numbered? m 4 cs
    | 'U' => numbered? m 8 cs
    | 'p' | 'P' =>
      match m.skip cs with
      | k :: cs => if m.wide && isCategory k then some (.set, cs) else none
      | [] => none
    | 'd' | 's' | 'w' => some (.set, cs)
    | 'D' | 'S' | 'W' => if m.wide then some (.set, cs) else none
    | 'A' | 'z' => some (.place, cs)
    | 'b' | 'B' | '<' | '>' => if m.wide then none else some (.place, cs)
    | c =>
      if isGuardable c then some (.char c, cs) else (control? c).map fun d => (.char d, cs)

def classNames : List String :=
  ["alnum", "alpha", "ascii", "blank", "cntrl", "digit", "graph", "lower", "print", "punct",
    "space", "upper", "word", "xdigit"]

/-- A name between colons, after a bracket within a class, and whether it excludes. -/
def className? : List Char → Option (Bool × List Char)
  | ':' :: cs =>
    let excludes := cs.head? == some '^'
    let cs := if excludes then cs.tail else cs
    let name := cs.takeWhile (· ≠ ':')
    match cs.drop name.length with
    | ':' :: ']' :: cs =>
      if classNames.contains (String.ofList name) then some (excludes, cs) else none
    | _ => none
  | _ => none

/-- Hyphens at the start of a class stand for themselves. -/
def skipHyphens (m : Mode) (members : Row) : (bound : Nat) → List Char → Row × List Char
  | bound + 1, '-' :: cs => skipHyphens m (members.add 0) bound (m.skip cs)
  | _, cs => (members, cs)

/-- A bracket at the start of a class stands for itself. -/
def firstMembers (m : Mode) : List Char → Row × List Char
  | ']' :: cs => (Row.empty.add 0, cs)
  | cs => skipHyphens m .empty cs.length cs

/-- The start of a class, after its bracket. -/
def openClass? (m : Mode) (cs : List Char) : Option (Row × List Char) :=
  match m.skip cs with
  | '^' :: cs => if m.wide then some (firstMembers m (m.skip cs)) else none
  | cs => some (firstMembers m cs)

/-- A member, with the character if it is one. -/
def member? (m : Mode) : List Char → Option (Option Char × List Char)
  | [] => none
  | '\\' :: cs =>
    match escape? m cs with
    | some (.char c, cs) => if m.wide || isAscii c then some (some c, cs) else none
    | some (.set, cs) => some (none, cs)
    | some (.place, _) | none => none
  | c :: cs => if m.wide || isAscii c then some (some c, cs) else none

/-- A member or a range; its ends are characters in their order. -/
def range? (m : Mode) (cs : List Char) : Option (List Char) := do
  let (first, cs) ← member? m cs
  match m.skip cs with
  | '-' :: rest =>
    match m.skip rest with
    | ']' :: _ | '-' :: _ => return '-' :: rest
    | rest =>
      let (last, rest) ← member? m rest
      match first, last with
      | some a, some b => if a ≤ b then return rest else none
      | _, _ => none
  | cs => return cs

/-- A class that is open: what is on the left of its last operator, and the members after it. -/
structure OpenClass where
  left : Option Nat
  members : Row
  deriving DecidableEq, Repr

def OpenClass.add (o : OpenClass) (depth : Nat) : OpenClass :=
  { o with members := o.members.add depth }

def OpenClass.nesting (o : OpenClass) : Nat := joined o.left o.members.nesting

/-- The rest of a class that is inside others, the innermost first, with its nesting. -/
def classFrom (m : Mode) : (bound : Nat) → OpenClass → (around : List OpenClass) → List Char →
    Option (Nat × List Char)
  | 0, _, _, _ => none
  | bound + 1, o, around, cs =>
    match m.skip cs with
    | ']' :: cs =>
      match around with
      | [] => some (o.nesting + 1, cs)
      | outer :: around => classFrom m bound (outer.add (o.nesting + 1)) around cs
    | '[' :: cs =>
      match className? cs with
      | some (excludes, cs) =>
        if excludes && !m.wide then none else classFrom m bound (o.add 0) around cs
      | none => do
        let (members, cs) ← openClass? m cs
        classFrom m bound ⟨none, members⟩ (o :: around) cs
    | '&' :: '&' :: cs | '-' :: '-' :: cs | '~' :: '~' :: cs =>
      classFrom m bound ⟨some o.nesting, .empty⟩ around cs
    | cs => do classFrom m bound (o.add 0) around (← range? m cs)

def class? (m : Mode) (cs : List Char) : Option (Nat × List Char) := do
  let (members, cs) ← openClass? m cs
  classFrom m (cs.length + 1) ⟨none, members⟩ [] cs

def startsName (c : Char) : Bool :=
  c = '_' || (Text.isWordChar c && Text.isAlphanumeric c && !Text.isDecimalDigit c)

def continuesName (c : Char) : Bool :=
  c = '_' || c = '.' || c = '[' || c = ']' || Text.isAlphanumeric c

def isName : List Char → Bool
  | [] => false
  | c :: cs => startsName c && cs.all continuesName

/-- A name and the bracket that closes it. -/
def name? (cs : List Char) : Option (List Char × List Char) :=
  let name := cs.takeWhile (· ≠ '>')
  match cs.drop name.length with
  | '>' :: cs => if isName name then some (name, cs) else none
  | _ => none

/-- A group that is open. -/
structure OpenGroup where
  mode : Mode
  /-- The nesting of the alternatives before the last. -/
  before : Option Nat
  pieces : Row
  /-- The nesting of the last piece, if that can be repeated. -/
  last : Option Nat
  deriving DecidableEq, Repr

def OpenGroup.start (m : Mode) : OpenGroup := ⟨m, none, .empty, none⟩

def OpenGroup.add (g : OpenGroup) (depth : Nat) : OpenGroup :=
  { g with pieces := g.pieces.add depth, last := some depth }

/-- Flags are a piece that cannot be repeated. -/
def OpenGroup.addFlags (g : OpenGroup) (m : Mode) : OpenGroup :=
  { g with mode := m, pieces := g.pieces.add 0, last := none }

def OpenGroup.repeat? (g : OpenGroup) : Option OpenGroup :=
  g.last.map fun depth =>
    { g with pieces.depth := max g.pieces.depth (depth + 1), last := some (depth + 1) }

/-- Alternatives nest once, however many there are. -/
def OpenGroup.alternate (g : OpenGroup) : OpenGroup :=
  { g with
    before := some (max (g.before.getD 0) g.pieces.nesting)
    pieces := .empty
    last := none }

def OpenGroup.nesting (g : OpenGroup) : Nat := joined g.before g.pieces.nesting

/-- How far a pattern is read: the group that it is in, those around that, the innermost first, and
the names given to groups. -/
structure Progress where
  group : OpenGroup
  around : List OpenGroup
  names : List (List Char)
  deriving DecidableEq, Repr

def Progress.initial : Progress := ⟨.start ⟨false, true⟩, [], []⟩

def Mode.switch (m : Mode) (flag : Char) (on : Bool) : Mode :=
  if flag = 'x' then { m with loose := on }
  else if flag = 'u' then { m with wide := on }
  else m

/-- Flags, each of them once; those after a hyphen are switched off. They hold for a group if a
colon ends them, and for the rest of the group around otherwise. -/
def flags? (m : Mode) (given : List Char) : List Char → Option (Bool × Mode × List Char)
  | [] => none
  | c :: cs =>
    if c = ':' ∨ c = ')' then
      if given.head? = some '-' ∨ (c = ')' ∧ given = []) then none else some (c = ':', m, cs)
    else if ['-', 'i', 'm', 's', 'U', 'u', 'R', 'x'].contains c && !given.contains c then
      flags? (m.switch c (!given.contains '-')) (c :: given) cs
    else none

def Progress.enter (p : Progress) (m : Mode) : Progress :=
  { p with group := .start m, around := p.group :: p.around }

def Progress.enterNamed? (p : Progress) (cs : List Char) : Option (Progress × List Char) := do
  let (name, cs) ← name? cs
  if p.names.contains name then none
  else return ({ p.enter p.group.mode with names := name :: p.names }, cs)

/-- What follows the parenthesis that opens a group. -/
def Progress.open? (p : Progress) (cs : List Char) : Option (Progress × List Char) :=
  match p.group.mode.skip cs with
  | '?' :: 'P' :: '<' :: cs => p.enterNamed? cs
  | '?' :: '<' :: cs => p.enterNamed? cs
  | '?' :: cs => do
    let (ofGroup, m, cs) ← flags? p.group.mode [] cs
    return (if ofGroup then p.enter m else { p with group := p.group.addFlags m }, cs)
  | cs => some (p.enter p.group.mode, cs)

def Progress.close? (p : Progress) : Option Progress :=
  match p.around with
  | [] => none
  | outer :: around => some { p with group := outer.add (p.group.nesting + 1), around }

/-- Goes on after a piece of that nesting. -/
def Progress.past (p : Progress) (depth : Nat) (cs : List Char) : Progress × List Char :=
  ({ p with group := p.group.add depth }, cs)

/-- Reads one piece. -/
def Progress.step? (p : Progress) : List Char → Option (Progress × List Char)
  | [] => none
  | '(' :: cs => p.open? cs
  | ')' :: cs => p.close?.map (·, cs)
  | '|' :: cs => some ({ p with group := p.group.alternate }, cs)
  | '[' :: cs => (class? p.group.mode cs).map fun e => p.past e.1 e.2
  | '\\' :: cs => (escape? p.group.mode cs).map fun e => p.past 0 e.2
  | c :: cs =>
    if c = '?' ∨ c = '*' ∨ c = '+' then
      p.group.repeat?.map fun group =>
        ({ p with group }, if cs.head? = some '?' then cs.tail else cs)
    else if c = '\x7b' ∨ (c = '.' ∧ ¬p.group.mode.wide) then none
    else some (p.past 0 cs)

/-- So deeply may a pattern be nested. -/
def deepest : Nat := 250

def Progress.finishes (p : Progress) : (bound : Nat) → List Char → Bool
  | 0, _ => false
  | bound + 1, cs =>
    match p.group.mode.skip cs with
    | [] => p.around.isEmpty && p.group.nesting ≤ deepest
    | c :: cs =>
      match p.step? (c :: cs) with
      | some (p, cs) => p.finishes bound cs
      | none => false

end Pattern

def isPattern (cs : List Char) : Bool :=
  Pattern.Progress.initial.finishes (cs.length + 1) cs

/-- A number in decimal digits or by name, with a sign or without. -/
def isNumber (cs : List Char) : Bool :=
  let cs := if cs.head? = some '+' ∨ cs.head? = some '-' then cs.tail else cs
  let whole := cs.takeWhile Text.isAsciiDigit
  let afterWhole := cs.drop whole.length
  let pointed := afterWhole.head? = some '.'
  let places := if pointed then afterWhole.tail.takeWhile Text.isAsciiDigit else []
  let power := if pointed then afterWhole.tail.drop places.length else afterWhole
  ["inf", "infinity", "nan"].contains (String.ofList (cs.map Char.toLower)) ||
    (!(whole ++ places).isEmpty && isPower power)
where
  /-- An exponent, or none. -/
  isPower : List Char → Bool
    | [] => true
    | c :: cs =>
      let cs := if cs.head? = some '+' ∨ cs.head? = some '-' then cs.tail else cs
      (c = 'e' || c = 'E') && !cs.isEmpty && cs.all Text.isAsciiDigit

end TraceView.Log
