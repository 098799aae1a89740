import TraceView.Decimal.Places
import TraceView.Shell.Process
import TraceView.Shell.Quoting

/-!
# `cat` and `sleep`

The programs besides the shell.
-/

namespace TraceView.Shell

/-- What stands before a number of the system. -/
def beforeNumber : List Char → List Char
  | [] => []
  | c :: cs => if " (os error".toList.isPrefixOf (c :: cs) then [] else c :: beforeNumber cs

def plainText (fault : Fault) : String :=
  String.ofList (beforeNumber fault.message.toList)

def hint (name : String) : String :=
  "Try '" ++ name ++ " --help' for more information."

/-- A program that cannot be used this way. -/
def misuse (name text : String) : Run Unit := do
  writeError (name ++ ": " ++ text)
  writeError (hint name)
  setStatus 1

/-- Why the options of a program cannot be read. -/
inductive UsageFault where
  | letter (c : Char)
  | unknown (s : String)
  | ambiguous (s : String) (candidates : List String)
  | withArgument (s : String)

def UsageFault.text : UsageFault → String
  | .letter c => "invalid option -- '" ++ String.singleton c ++ "'"
  | .unknown s => "unrecognized option '" ++ s ++ "'"
  | .ambiguous s candidates =>
    "option '" ++ s ++ "' is ambiguous; possibilities:" ++
      String.join (candidates.map fun c => " '--" ++ c ++ "'")
  | .withArgument s => "option '--" ++ s ++ "' doesn't allow an argument"

/-- The options of a program: letters, and long names with the letter each stands for. -/
structure OptionTable where
  letters : List Char
  names : List (String × Char)

/-- A long option, which may be shortened for as long as one name begins with it. -/
def OptionTable.long (t : OptionTable) (arg : List Char) : Except UsageFault Char :=
  let word := arg.takeWhile (· ≠ '=')
  let found := t.names.filter fun e => word.isPrefixOf e.1.toList
  let exact := t.names.filter fun e => e.1.toList = word
  let spelled := "--" ++ String.ofList arg
  match if exact.isEmpty then found else exact with
  | [] => .error (.unknown spelled)
  | [(name, letter)] => if word = arg then .ok letter else .error (.withArgument name)
  | several => .error (.ambiguous spelled (several.map (·.1)))

/-- Letters and operands, which may be mixed. -/
structure Usage where
  letters : List Char
  operands : List String

def OptionTable.read (t : OptionTable) : List String → Except UsageFault Usage
  | [] => .ok ⟨[], []⟩
  | "--" :: operands => .ok ⟨[], operands⟩
  | arg :: rest => do
    let letters ← match arg.toList with
      | '-' :: '-' :: cs => (t.long cs).map (some [·])
      | '-' :: c :: cs =>
        match (c :: cs).find? fun c => !t.letters.contains c with
        | some bad => throw (.letter bad)
        | none => pure (some (c :: cs))
      | _ => pure none
    let u ← t.read rest
    return match letters with
      | some ls => { u with letters := ls ++ u.letters }
      | none => { u with operands := arg :: u.operands }

def Usage.has (u : Usage) (letters : List Char) : Bool := letters.any u.letters.contains

def catTable : OptionTable where
  letters := ['b', 'e', 'n', 's', 't', 'u', 'v', 'A', 'E', 'T']
  names := [("number-nonblank", 'b'), ("number", 'n'), ("squeeze-blank", 's'),
    ("show-nonprinting", 'v'), ("show-ends", 'E'), ("show-tabs", 'T'), ("show-all", 'A')]

/-- A byte in the notation that leaves nothing invisible. -/
def visibleByte (c : Char) : List Char :=
  let low := fun (n : Nat) => if n < 0x20 then ['^', Char.ofNat (n + 0x40)]
    else if n = 0x7F then ['^', '?'] else [Char.ofNat n]
  if c.toNat < 0x80 then low c.toNat else ['M', '-'] ++ low (c.toNat - 0x80)

def Usage.catChar (u : Usage) (c : Char) : List Char :=
  if c = '\t' then (if u.has ['A', 't', 'T'] then ['^', 'I'] else [c])
  else if u.has ['A', 'e', 't', 'v'] then visibleByte c
  else [c]

/-- The characters of a line. Where the end of the line is shown, so is a carriage return before it. -/
def Usage.catChars (u : Usage) (ends : Bool) : List Char → List Char
  | [] => []
  | ['\r'] => if ends then ['^', 'M'] else u.catChar '\r'
  | c :: cs => u.catChar c ++ u.catChars ends cs

/-- Number of the last line, whether it goes on, and whether it was empty. -/
structure CatState where
  line : Nat
  midLine : Bool
  wasEmpty : Bool

def CatState.initial : CatState := ⟨0, false, false⟩

def lineNumber (n : Nat) : List Char :=
  let ds := Nat.toDigits 10 n
  List.replicate (6 - ds.length) ' ' ++ ds ++ ['\t']

/-- A line, whether it is complete, and the state after it. -/
def Usage.catLine (u : Usage) (s : CatState) (cs : List Char) (complete : Bool) :
    List Char × CatState :=
  let empty := cs.isEmpty && complete && !s.midLine
  if empty && s.wasEmpty && u.has ['s'] then ([], s)
  else
    let counted := !s.midLine && (if u.has ['b'] then !empty else u.has ['n'])
    let n := if counted then s.line + 1 else s.line
    let ends := u.has ['A', 'e', 'E'] && complete
    let ending := if ends then ['$', '\n'] else if complete then ['\n'] else []
    ((if counted then lineNumber n else []) ++ u.catChars ends cs ++ ending,
      ⟨n, !complete, empty⟩)

/-- `current` holds the line under way in reverse. -/
def Usage.catText (u : Usage) (s : CatState) (current : List Char) :
    List Char → List Char × CatState
  | [] => if current.isEmpty then ([], s) else u.catLine s current.reverse false
  | c :: rest =>
    if c = '\n' then
      let (out, s) := u.catLine s current.reverse true
      let (more, s) := u.catText s [] rest
      (out ++ more, s)
    else u.catText s (c :: current) rest

/-- Without options that change anything the text stays as it is. -/
def Usage.catOutput (u : Usage) (s : CatState) (cs : List Char) : List Char × CatState :=
  if u.letters.all (· = 'u') then (cs, s) else u.catText s [] cs

/-- What is left of the input, if it can be read. -/
def readInput : Run (Except Fault (List Char)) := do
  match Keyed.get? (← self).descriptors 0 with
  | some .directory => return .error .isADirectory
  | some _ => return .ok (← takeInput)
  | none => return .error .badDescriptor

def readFile (path : String) : Run (Except Fault (List Char)) := do
  let read := (← world).tree.readBytes (← self).cwd (Text.unoctets path)
  return read.map fun bytes => (Text.ofOctetBytes bytes).toList

/-- One file after the other; false if one could not be read. -/
def catFiles (name : String) (u : Usage) (s : CatState) : List String → Run Bool
  | [] => return true
  | file :: rest => do
    match ← if file = "-" then readInput else readFile file with
    | .ok cs =>
      let (out, s) := u.catOutput s cs
      let _ ← write 1 out
      catFiles name u s rest
    | .error fault =>
      writeError (name ++ ": " ++ wordQuoted file ++ ": " ++ plainText fault)
      let _ ← catFiles name u s rest
      return false

def cat (name : String) (args : List String) : Run Unit := do
  match catTable.read args with
  | .error fault => misuse name fault.text
  | .ok u =>
    let files := if u.operands = [] then ["-"] else u.operands
    if (Keyed.get? (← self).descriptors 1).isNone then
      writeError (name ++ ": standard output: " ++ plainText Fault.badDescriptor)
      setStatus 1
    else
      let ok ← catFiles name u .initial files
      if files.contains "-" && (Keyed.get? (← self).descriptors 0).isNone then
        writeError (name ++ ": closing standard input: " ++ plainText Fault.badDescriptor)
      setStatus (if ok then 0 else 1)

def unitOf? (cs : List Char) : Option Nat :=
  match cs with
  | [] | ['s'] => some 1
  | ['m'] => some 60
  | ['h'] => some 3600
  | ['d'] => some 86400
  | _ => none

/-- Longer than anything lasts. -/
def forever : Nat := 1000000000000

/-- Milliseconds, rounded up. -/
def interval? (s : String) : Option Nat := do
  let t ← Decimal.scalar? s.toList
  let unit ← unitOf? t.rest
  match t.value with
  | .finite x =>
    if x.negative && !x.isZero then none
    else
      let (num, den) := x.ratio
      some ((num * unit * 1000 + den - 1) / den)
  | .infinite false => some forever
  | _ => none

def sleep (name : String) (args : List String) : Run Unit := do
  match (OptionTable.mk [] []).read args with
  | .error fault => misuse name fault.text
  | .ok u =>
    match u.operands.mapM interval? with
    | some (n :: ns) =>
      setWorld fun w => { w with clock := (n :: ns).foldl (· + ·) w.clock }
      setStatus 0
    | some [] => if args = [] then misuse name "missing operand" else setStatus 0
    | none =>
      for a in u.operands.filter fun a => (interval? a).isNone do
        writeError (name ++ ": invalid time interval " ++ messageQuoted a)
      writeError (hint name)
      setStatus 1

end TraceView.Shell
