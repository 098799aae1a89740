import TraceView.Shell.Field
import TraceView.Shell.Process
import TraceView.Shell.Sum

/-!
# Expansion of words

A word expands to bits, from which fields, texts and patterns are made. Parameters, sums and the
output of commands may stand in words within words; fuel bounds how deep.
-/

namespace TraceView.Shell

open TraceView.Machine (Tree Node)

/-- The letters of options in the order in which they are shown, and their names. -/
def optionNames : List (Char × String) :=
  [('u', "nounset"), ('b', "notify"), ('a', "allexport"), ('C', "noclobber"), ('E', "emacs"),
    ('V', "vi"), ('v', "verbose"), ('x', "xtrace"), ('s', "stdin"), ('n', "noexec"),
    ('m', "monitor"), ('i', "interactive"), ('I', "ignoreeof"), ('f', "noglob"), ('e', "errexit")]

/-- All arguments as one text, with a character between them. -/
def argumentsText (separator : Option Char) (args : List String) : String :=
  String.intercalate (separator.elim "" String.singleton) args

/-- What stands between the arguments. Where fields are split, arguments stay apart. -/
def Process.argumentSeparator (p : Process) (name : String) (quoted split : Bool) : Option Char :=
  if name = "@" && quoted && split then some argumentBreak
  else match p.value? "IFS" with
    | none => some ' '
    | some ifs => if quoted || !split then ifs.toList.head? else some argumentBreak

/-- The value of a parameter that is set. -/
def Process.parameter? (p : Process) (name : String) (quoted split : Bool) : Option String :=
  match name with
  | "#" => some (toString p.args.length)
  | "?" => some (toString p.status)
  | "$" => some (toString p.pid)
  | "!" => p.background.map toString
  | "-" => some (String.ofList ((optionNames.map (·.1)).filter p.options.contains))
  | "@" | "*" => some (argumentsText (p.argumentSeparator name quoted split) p.args)
  | _ =>
    match name.toNat? with
    | some 0 => some p.name
    | some n => p.args[n - 1]?
    | none => p.value? name

/-- How a word is expanded. -/
structure Aim where
  /-- Is the result split into fields? -/
  split : Bool
  /-- Does a tilde at the start stand for the home directory, and one after a colon? -/
  tilde : Bool
  colons : Bool

def Aim.text : Aim := ⟨false, true, false⟩

def Aim.fields : Aim := ⟨true, true, false⟩

def Aim.assigned : Aim := ⟨false, true, true⟩

/-- Where bits stand that may come to be split. -/
inductive Stretch where
  | outside
  /-- In a run of characters that are not quoted. -/
  | run
  | region
  deriving DecidableEq, Repr

/-- The characters of a word in the place of a value may be split where they are not quoted. -/
def softRuns : Stretch → List Bit → List Bit
  | stretch, [] => if stretch = .run then [.closes] else []
  | .region, .closes :: bits => .closes :: softRuns .outside bits
  | .region, bit :: bits => bit :: softRuns .region bits
  | .outside, .char c false :: bits => .opens false :: .char c false :: softRuns .run bits
  | .run, .char c false :: bits => .char c false :: softRuns .run bits
  | stretch, bit :: bits =>
    let after := if bit matches .opens _ then Stretch.region else .outside
    (if stretch = .run then [.closes] else []) ++ bit :: softRuns after bits

/-- The directory that a tilde and a name stand for. -/
def homeOf (p : Process) (name : String) : Option String :=
  if name = "" then (p.value? "HOME").filter (· ≠ "")
  else if name = "root" then some "/root"
  else none

/-- The name after a tilde at the front, up to a slash, if nothing in it is quoted. -/
def tildeName? (colons : Bool) (w : Word) : Option (String × Word) :=
  match w with
  | .char '~' false :: rest =>
    let ends := fun
      | Piece.char c false => c = '/' || (colons && c = ':')
      | _ => false
    let name := rest.takeWhile (!ends ·)
    (bare? name).map (·, rest.drop name.length)
  | _ => none

/-- Without trailing line breaks. -/
def trimEnd (cs : List Char) : List Char := (cs.reverse.dropWhile (· = '\n')).reverse

/-- An error in an expansion, which no command stands for. -/
def missing {α : Type} (name text : String) : Run α := fail (name ++ ": " ++ text)

/-- The variables of the process, as a sum sees them. -/
def sumVariables : Sum.Variables Run where
  value name := do
    let s ← valueOf name
    match variableNumber? s with
    | some n => return Int64.ofInt n
    | none => fail ("Illegal number: " ++ s)
  assign name n := setVariable name (toString n.toInt)

def sumOf (text : String) : Run String := do
  match ← (Sum.read sumVariables text).run with
  | .ok n => return toString n.toInt
  | .error flaw => fail ("arithmetic expression: " ++ flaw.text ++ ": \"" ++ text ++ "\"")

/-- Quoted arguments stay apart; what is not quoted may be split. -/
def Process.arranged (p : Process) (name : String) (quoted : Bool) (v : String) : List Bit :=
  if !quoted then region false (charBits false v)
  else if name = "@" && !p.args.isEmpty then region true (charBits true v)
  else charBits true v

section Expander

variable (output : Command → Run (List Char))

mutual

def bits : Nat → Aim → Word → Run (List Bit)
  | 0, _, _ => throw .spent
  | fuel + 1, aim, w => do
    match if aim.tilde then tildeName? aim.colons w else none with
    | some (name, rest) =>
      match homeOf (← self) name with
      | some home => return charBits true home ++ (← bitsAfter fuel { aim with tilde := false } rest)
      | none => bitsAfter fuel { aim with tilde := false } w
    | none => bitsAfter fuel { aim with tilde := false } w

/-- After the start of a word a tilde stands for itself, except after a colon in an assignment. -/
def bitsAfter : Nat → Aim → Word → Run (List Bit)
  | 0, _, _ => throw .spent
  | _, _, [] => return []
  | fuel + 1, aim, .char c quoted :: rest => do
    if aim.colons && c = ':' && !quoted then
      return .char c quoted :: (← bits fuel { aim with tilde := true } rest)
    else return .char c quoted :: (← bitsAfter fuel aim rest)
  | fuel + 1, aim, .mark :: .param "@" .value orEmpty word true :: .mark :: rest => do
    let here ← paramBits fuel aim "@" .value orEmpty word true
    return here ++ (← bitsAfter fuel aim rest)
  | fuel + 1, aim, .mark :: rest => do return .mark :: (← bitsAfter fuel aim rest)
  | fuel + 1, aim, .param name .value true word quoted :: _ => do
    let here ← paramBits fuel aim name .value false [] quoted
    return here ++ (← bitsAfter fuel aim word)
  | fuel + 1, aim, .param name use orEmpty word quoted :: rest => do
    let here ← paramBits fuel aim name use orEmpty word quoted
    return here ++ (← bitsAfter fuel aim rest)
  | fuel + 1, aim, .output body quoted :: rest => do
    let here := valueBits quoted (String.ofList (trimEnd (← output body)))
    return here ++ (← bitsAfter fuel aim rest)
  | fuel + 1, aim, .sum text quoted :: rest => do
    let text := joined (← bitsAfter fuel ⟨false, false, false⟩ text)
    let here := valueBits quoted (← sumOf text)
    return here ++ (← bitsAfter fuel aim rest)

/-- The word of a parameter in the place of its value. -/
def wordBits : Nat → Aim → Word → Bool → Run (List Bit)
  | 0, _, _, _ => throw .spent
  | fuel + 1, aim, w, quoted => do
    let here ← bits fuel { aim with tilde := !quoted } w
    return if quoted then here else softRuns .outside here

def paramBits : Nat → Aim → String → Use → Bool → Word → Bool → Run (List Bit)
  | 0, _, _, _, _, _, _ => throw .spent
  | fuel + 1, aim, name, use, orEmpty, word, quoted => do
    let p ← self
    let value := (p.parameter? name quoted aim.split).filter fun v => !(orEmpty && v = "")
    match use, value with
    | .unknown, _ => fail "Bad substitution"
    | .instead, none => return []
    | .instead, some _ => wordBits fuel aim word quoted
    | .otherwise false, none => wordBits fuel aim word quoted
    | .otherwise true, none =>
      setVariable name (joined (← bits fuel .text word))
      let p ← self
      return p.arranged name quoted ((p.parameter? name quoted aim.split).getD "")
    | .demand, none =>
      let text := joined (← bits fuel .text word)
      missing name (if word.isEmpty then
        "parameter not set" ++ (if orEmpty then " or null" else "") else text)
    | .value, some v | .otherwise _, some v | .demand, some v => return p.arranged name quoted v
    | _, none =>
      if p.options.contains 'u' then missing name "parameter not set"
      return if use = .length then valueBits quoted "0"
        else if quoted then [] else region false []
    | .length, some v => return valueBits quoted (toString v.length)
    | .cut atEnd longest, some v =>
      let items := patternItems (patternChars (← bits fuel .text word))
      let cut := cutFitting atEnd longest items v.toList
      return p.arranged name quoted (String.ofList cut)
end

/-- Names in a directory, in order. -/
def namesIn (tree : Tree) (dir : Path) : List String :=
  let names := (tree.map (·.1)).filterMap fun p =>
    if Tree.parentOf p = dir then some (Text.octets (String.ofList
      (p.toList.reverse.takeWhile (· ≠ '/')).reverse)) else none
  (".." :: "." :: names).mergeSort (· ≤ ·)

/-- Does a name fit? One that begins with a period only if the pattern does too. -/
def nameFits (items : List PatternItem) (name : String) : Bool :=
  let hidden := name.toList.head? = some '.'
  (!hidden || items.head? = some (.char '.')) && matchesAll items name.toList

/-- A part of a pattern between slashes, as the text it is or as items to be matched. -/
def isPattern (items : List PatternItem) : Bool :=
  items.any fun
    | .char _ => false
    | _ => true

def literalText (items : List PatternItem) : String :=
  String.ofList (items.filterMap fun
    | .char c => some c
    | _ => none)

/-- The parts between slashes. -/
def slashParts : List PatternChar → List (List PatternChar)
  | [] => [[]]
  | e :: rest =>
    match slashParts rest with
    | [] => [[e]]
    | part :: parts => if e.1 = '/' then [] :: part :: parts else (e :: part) :: parts

/-- The paths that fit the parts of a pattern after the path `before`. -/
def fittingPaths (tree : Tree) (cwd : Path) (before : String) :
    List (List PatternChar) → List String
  | [] => [before]
  | part :: parts =>
    let items := patternItems part
    let separator := if parts.isEmpty then "" else "/"
    let there := fun path => (tree.find cwd (Text.unoctets path)).toOption.isSome
    if isPattern items then
      let dir := if before = "" then "." else before
      match tree.find cwd (Text.unoctets dir) with
      | .ok (place, .directory) =>
        ((namesIn tree place).filter (nameFits items)).flatMap fun name =>
          let path := before ++ name ++ separator
          if there path then fittingPaths tree cwd path parts else []
      | _ => []
    else
      let path := before ++ literalText items ++ separator
      if parts.isEmpty && !there path then [] else fittingPaths tree cwd path parts

/-- The paths that a field stands for, or its text if it is no pattern of any. -/
def pathsOf (tree : Tree) (cwd : Path) (field : List PatternChar) : List String :=
  if isPattern (patternItems field) then
    match fittingPaths tree cwd "" (slashParts field) with
    | [] => [fieldText field]
    | paths => paths.mergeSort (· ≤ ·)
  else [fieldText field]

def fields (fuel : Nat) (w : Word) : Run (List String) := do
  let found ← bits output fuel .fields w
  let p ← self
  let tree := (← world).tree
  let parts := fieldsOf p.separators none found
  return if p.options.contains 'f' then parts.map fieldText
    else parts.flatMap (pathsOf tree p.cwd)

def text (fuel : Nat) (aim : Aim) (w : Word) : Run String := do
  return joined (← bits output fuel aim w)

end Expander

end TraceView.Shell
