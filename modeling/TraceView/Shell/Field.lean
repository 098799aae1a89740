import TraceView.Shell.Pattern

/-!
# Fields

A word expands to characters and to marks of where it may be split: regions that come from unquoted
expansions are split at the separators, regions that hold quoted arguments only between these.
-/

namespace TraceView.Shell

inductive Bit where
  | char (c : Char) (quoted : Bool)
  /-- There is a field here, even an empty one. -/
  | mark
  /-- A region begins that may be split, perhaps only between arguments. -/
  | opens (argumentsOnly : Bool)
  | closes
  deriving DecidableEq, Repr

/-- Stands between arguments; no value holds it. -/
def argumentBreak : Char := '\x00'

def blankSeparators : List Char := [' ', '\t', '\n']

/-- The field under way, in reverse, and how far splitting has come. -/
structure Splitting where
  fields : List (List PatternChar)
  field : List PatternChar
  marked : Bool
  /-- Is the character in a region, and which kind of region was the last? -/
  inside : Bool
  argumentsOnly : Bool
  afterArguments : Bool
  seen : Bool
  /-- Did a blank end the last field? -/
  blankEnded : Bool
  /-- How many more fields there may be, if there is a limit. -/
  room : Option Nat
  /-- Length of the last field without what is to be cut off at its end. -/
  kept : Option Nat

def Splitting.initial (room : Option Nat) : Splitting :=
  ⟨[], [], false, false, false, false, false, false, room, none⟩

namespace Splitting

def isEmpty (s : Splitting) : Bool := s.field.isEmpty && !s.marked

def append (s : Splitting) (c : Char) (quoted : Bool) : Splitting :=
  { s with field := (c, quoted) :: s.field }

def endField (s : Splitting) : Splitting :=
  { s with fields := s.field.reverse :: s.fields, field := [], marked := false }

/-- The last field of a limited number is not split; separators at its end do not belong to it. -/
def pushLast (s : Splitting) (isSeparator isBlank : Bool) (c : Char) (quoted : Bool) : Splitting :=
  let here := s.field.length
  let s := if isBlank then { s with kept := some (s.kept.getD here) }
    else { s with
      kept := if isSeparator && s.blankEnded then s.kept else none
      blankEnded := false }
  s.append c quoted

/-- A character in a region, which may be a separator and one of the blank ones. -/
def pushSoft (s : Splitting) (isSeparator isBlank : Bool) (c : Char) (quoted : Bool) : Splitting :=
  if s.room = some 0 then s.pushLast isSeparator isBlank c quoted
  else if s.blankEnded && isSeparator then
    { s with blankEnded := isBlank }
  else if isSeparator && !s.blankEnded then
    let s := if s.afterArguments || s.argumentsOnly then s else { s with blankEnded := isBlank }
    if s.isEmpty && s.blankEnded then { s with blankEnded := false }
    else
      match s.room with
      | some 1 => { s.append c quoted with room := some 0, kept := some s.field.length }
      | room => { s.endField with room := room.map (· - 1) }
  else { s.append c quoted with blankEnded := false }

def push (separators : List Char) (s : Splitting) : Bit → Splitting
  | .mark => { s with marked := true }
  | .opens argumentsOnly => { s with
      inside := true
      afterArguments := s.argumentsOnly
      argumentsOnly
      seen := true
      blankEnded := false }
  | .closes => { s with inside := false }
  | .char c quoted =>
    if s.inside then
      let isSeparator := c = argumentBreak || (!s.argumentsOnly && separators.contains c)
      s.pushSoft isSeparator (isSeparator && (c = argumentBreak || blankSeparators.contains c))
        c quoted
    else s.append c quoted

/-- All fields; an empty one at the end counts only after arguments. -/
def finish (s : Splitting) : List (List PatternChar) :=
  let cut := s.kept.elim s.field fun n => s.field.drop (s.field.length - n)
  let absent := cut.isEmpty && !s.marked && !(s.seen && s.argumentsOnly)
  let last := if absent then [] else [cut.reverse]
  s.fields.reverse ++ last

end Splitting

def fieldsOf (separators : List Char) (room : Option Nat) (bits : List Bit) :
    List (List PatternChar) :=
  (bits.foldl (Splitting.push separators) (.initial room)).finish

def fieldText (field : List PatternChar) : String := String.ofList (field.map (·.1))

/-- The bits as characters of a pattern. -/
def patternChars (bits : List Bit) : List PatternChar :=
  bits.filterMap fun
    | .char c quoted => some (c, quoted)
    | _ => none

/-- The bits as one text. -/
def joined (bits : List Bit) : String := fieldText (patternChars bits)

def charBits (quoted : Bool) (s : String) : List Bit := s.toList.map (.char · quoted)

/-- Bits that may be split. -/
def region (argumentsOnly : Bool) (bits : List Bit) : List Bit :=
  .opens argumentsOnly :: bits ++ [.closes]

/-- The bits of a value. -/
def valueBits (quoted : Bool) (s : String) : List Bit :=
  if quoted then charBits true s else region false (charBits false s)

end TraceView.Shell
