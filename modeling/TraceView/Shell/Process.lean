import TraceView.Machine.Tree
import TraceView.Shell.Numeral
import TraceView.Shell.Script
import TraceView.Text.Octets

/-!
# Processes of a shell

What a process has of its own, and the world that it shares with the processes it starts: files,
unread input, what was written, and the time. A run is a move of both that may stop early. Texts are
kept byte by byte; only paths are decoded.
-/

namespace TraceView.Shell

open TraceView.Machine (Tree)

/-- Where written characters go: to the outputs of the outermost process, or to whoever collects
them. -/
inductive Output where
  | stdout
  | stderr
  | collected (n : Nat)
  deriving DecidableEq, Repr

/-- A write to an output. -/
structure Write where
  /-- Milliseconds since the start. -/
  time : Nat
  /-- Its place among writes of the same time. -/
  turn : Nat
  output : Output
  bytes : List UInt8
  /-- The job that wrote it; zero stands for none. -/
  job : Nat
  deriving DecidableEq, Repr

/-- Did a write come before another one or together with it? -/
def Write.isBefore (a b : Write) : Bool := a.time < b.time || (a.time = b.time && a.turn ≤ b.turn)

/-- What an open descriptor leads to. -/
inductive Channel where
  | input (n : Nat)
  | output (o : Output)
  | file (path : Path)
  | directory
  | null
  deriving DecidableEq, Repr

/-- Unread characters, and the time from which they can be read. -/
structure Input where
  chars : List Char
  ready : Nat

/-- How a process ended. -/
inductive Ending where
  | exited (status : Nat)
  | signalled (signal : Nat)
  deriving DecidableEq, Repr

/-- The status that stands for an ending. -/
def Ending.status : Ending → Nat
  | .exited n => n
  | .signalled n => 128 + n

/-- When and how a process in the background ends. -/
structure Course where
  time : Nat
  ending : Ending
  /-- Signals that it does not care for. -/
  ignored : List Nat
  /-- Was its end noticed? -/
  noticed : Bool

/-- A signal sent to a process. -/
structure Sent where
  pid : Nat
  signal : Nat
  time : Nat

structure World where
  tree : Tree
  clock : Nat
  /-- Of processes that run at the same time, which one is ahead; and the last turn there was. -/
  turn : Nat
  lastTurn : Nat
  inputs : Keyed Nat Input
  /-- Which processes in the background write to what is collected. -/
  writers : List (Nat × Nat)
  /-- The last one first. -/
  writes : List Write
  /-- Numbers given to inputs, collections and processes so far. -/
  numbers : Nat
  /-- The processes in the background. -/
  courses : Keyed Nat Course
  /-- The documents of all scripts. -/
  documents : Keyed Nat Word
  /-- Signals that were not noticed yet. -/
  signals : List Sent

structure Variable where
  value : Option String
  exported : Bool
  readOnly : Bool
  deriving DecidableEq, Repr

structure Job where
  number : Nat
  pid : Nat
  /-- Was it waited for? -/
  waited : Bool

/-- Where a search for options stands: the next argument, and how many characters of the one before
it were looked at. -/
structure OptionPlace where
  argument : Nat
  offset : Option Nat
  deriving DecidableEq, Repr

/-- What a command or a function changes for as long as it runs. -/
structure Shadows where
  vars : List (String × Option Variable)
  options : Option (List Char)

structure Process where
  /-- The name by which it calls itself. -/
  name : String
  pid : Nat
  /-- Is it a copy of the process with this number? -/
  copied : Bool
  /-- The processes that wait for this one. -/
  ancestors : List Nat
  args : List String
  vars : Keyed String Variable
  /-- Actions by signal number; 0 stands for the end. -/
  traps : Keyed Nat String
  /-- Signals that were ignored from the start. -/
  ignored : List Nat
  /-- The status that an action interrupts. -/
  held : Option Nat
  functions : Keyed String Command
  /-- Where the programs are that were looked for. -/
  hashed : Keyed String Path
  aliases : Keyed String String
  /-- Letters of the options that are set. -/
  options : List Char
  optionPlace : OptionPlace
  /-- Loops and functions around the command that runs. -/
  loops : Nat
  calls : Nat
  shadows : List Shadows
  /-- Line of the command that runs. -/
  line : Nat
  /-- Line up to which the script has been read. -/
  readLine : Nat
  /-- What the command runs within, as errors name it. -/
  within : Option String
  /-- Is the status of the command only asked for? -/
  tested : Bool
  cwd : Path
  descriptors : Keyed Nat Channel
  status : Nat
  /-- The status of the last command whose output was substituted. -/
  substituted : Option Nat
  /-- The last process in the background. -/
  background : Option Nat
  /-- The last one first. -/
  jobs : List Job
  /-- The job that this process is; zero stands for none. -/
  job : Nat
  umask : Nat

inductive Stop where
  | exit
  /-- An error of the shell. -/
  | failed
  /-- A signal ends the process. -/
  | killed (signal : Nat)
  | leaveLoop (levels : Nat)
  | nextRound (levels : Nat)
  /-- Says whether a status was given. -/
  | returned (explicit : Bool)
  /-- It takes too long. -/
  | spent
  deriving DecidableEq, Repr

structure State where
  process : Process
  world : World

/-- A stopped run keeps the state it reached. -/
abbrev Run := ExceptT Stop (StateM State)

def self : Run Process := do return (← get).process

def world : Run World := do return (← get).world

def setSelf (f : Process → Process) : Run Unit :=
  modify fun s => { s with process := f s.process }

def setWorld (f : World → World) : Run Unit :=
  modify fun s => { s with world := f s.world }

def setStatus (n : Nat) : Run Unit := setSelf fun p => { p with status := n }

/-- How a run ended, as a value. -/
def observe {α : Type} (m : Run α) : Run (Except Stop α) :=
  fun s => let (r, s) := m.run s; (.ok r, s)

def resume {α : Type} : Except Stop α → Run α
  | .ok a => return a
  | .error stop => throw stop

/-- Runs something and then, however it ended, puts a part of the process back. -/
def restoring {α : Type} (m : Run α) (back : Process → Process) : Run α := do
  let r ← observe m
  setSelf back
  resume r

/-- A number not given before. -/
def freshNumber : Run Nat := do
  let n := (← world).numbers
  setWorld fun w => { w with numbers := n + 1 }
  return n

/-- Whoever waits lets all others go ahead that run at the same time. -/
def nextTurn : Run Unit :=
  setWorld fun w => { w with turn := w.lastTurn + 1, lastTurn := w.lastTurn + 1 }

def World.write (w : World) (job : Nat) (channel : Channel) (cs : List Char) : World :=
  let bytes := cs.map fun c => UInt8.ofNat c.toNat
  match channel with
  | .output o => { w with writes := ⟨w.clock, w.turn, o, bytes, job⟩ :: w.writes }
  | .file path => { w with tree := w.tree.append path bytes }
  | .input _ | .directory | .null => w

/-- False if the descriptor is closed. -/
def write (descriptor : Nat) (cs : List Char) : Run Bool := do
  let p ← self
  match Keyed.get? p.descriptors descriptor with
  | none => return false
  | some channel =>
    setWorld (·.write p.job channel cs)
    return true

def writeError (text : String) : Run Unit := do
  let _ ← write 2 (text ++ "\n").toList

def setLine (n : Nat) : Run Unit := setSelf fun p => { p with line := n }

/-- A message that says where it comes from. -/
def complain (text : String) : Run Unit := do
  let p ← self
  writeError (p.name ++ ": " ++ toString p.line ++ ": " ++
    (p.within.elim "" (· ++ ": ")) ++ text)

/-- An error of the shell. -/
def fail {α : Type} (text : String) : Run α := do
  complain text
  setStatus 2
  throw .failed

/-- A number for an input with these characters. -/
def newInput (cs : List Char) (ready : Nat) : Run Channel := do
  let n ← freshNumber
  setWorld fun w => { w with inputs := Keyed.insert w.inputs n ⟨cs, ready⟩ }
  return .input n

/-- What is left of the standard input; waits until it is there. -/
def unread : Run (List Char) := do
  match Keyed.get? (← self).descriptors 0 with
  | some (.input n) =>
    match Keyed.get? (← world).inputs n with
    | some i =>
      setWorld fun w => { w with clock := max w.clock i.ready }
      return i.chars
    | none => return []
  | _ => return []

def setUnread (cs : List Char) : Run Unit := do
  if let some (.input n) := Keyed.get? (← self).descriptors 0 then
    setWorld fun w => { w with inputs := Keyed.modify w.inputs n ({ · with chars := cs }) }

def takeInput : Run (List Char) := do
  let cs ← unread
  setUnread []
  return cs

/-- Runs something of which only the status counts. -/
def asTest (m : Run Unit) : Run Unit := do
  let before := (← self).tested
  setSelf fun p => { p with tested := true }
  restoring m fun p => { p with tested := before }

/-- Runs something of which the status counts again. -/
def untested (m : Run Unit) : Run Unit := do
  let before := (← self).tested
  setSelf fun p => { p with tested := false }
  restoring m fun p => { p with tested := before }

/-- Ends a process that must not go on after an error. -/
def checkStatus : Run Unit := do
  let p ← self
  if p.status ≠ 0 && !p.tested && p.options.contains 'e' then throw .exit

def Process.value? (p : Process) (name : String) : Option String :=
  (Keyed.get? p.vars name).bind (·.value)

def valueOf (name : String) : Run String := do
  return ((← self).value? name).getD ""

/-- The characters that separate fields. -/
def Process.separators (p : Process) : List Char :=
  ((p.value? "IFS").getD " \t\n").toList

/-- The name up to a sign, which must be a name. -/
def checkedName (name : String) : Run String := do
  let name := String.ofList (name.toList.takeWhile (· ≠ '='))
  if isName name then return name else fail (name ++ ": bad variable name")

/-- Changes a variable that is not protected. -/
def changeVariable (name : String) (f : Variable → Variable) : Run Unit := do
  let name ← checkedName name
  let v := (Keyed.get? (← self).vars name).getD ⟨none, false, false⟩
  if v.readOnly then fail (name ++ ": is read only")
  let exported := (← self).options.contains 'a'
  setSelf fun p => { p with
    vars := Keyed.insert p.vars name (f { v with exported := v.exported || exported }) }

/-- Setting the number of the next option starts the search for options anew; a new path makes the
places of programs unknown. -/
def setVariable (name value : String) : Run Unit := do
  changeVariable name fun v => { v with value := some value }
  if name = "PATH" then setSelf fun p => { p with hashed := [] }
  if name = "OPTIND" then
    setSelf fun p => { p with optionPlace := ⟨max 1 ((operand? value).getD 1), none⟩ }

def unsetVariable (name : String) : Run Unit := do
  let name ← checkedName name
  if ((Keyed.get? (← self).vars name).any (·.readOnly)) then fail (name ++ ": is read only")
  setSelf fun p => { p with
    vars := Keyed.erase p.vars name
    hashed := if name = "PATH" then [] else p.hashed }

/-- Notes what a variable is now, to be put back later. -/
def shadow (name : String) : Run Unit :=
  setSelf fun p => { p with shadows := match p.shadows with
    | [] => []
    | s :: rest => { s with vars := (name, Keyed.get? p.vars name) :: s.vars } :: rest }

/-- Notes what the options are now; only the first note counts. -/
def shadowOptions : Run Unit :=
  setSelf fun p => { p with shadows := match p.shadows with
    | [] => []
    | s :: rest => { s with options := some (s.options.getD p.options) } :: rest }

/-- Gives variables and options back what they were before. -/
def Process.unshadow (p : Process) (s : Shadows) : Process :=
  { p with
    vars := s.vars.foldl (fun vars e => match e.2 with
      | some v => Keyed.insert vars e.1 v
      | none => Keyed.erase vars e.1) p.vars
    hashed := if s.vars.any (·.1 = "PATH") then [] else p.hashed
    options := s.options.getD p.options }

/-- Undoes all but the first `depth` notes. -/
def Process.unwind (depth : Nat) (p : Process) : Process :=
  let n := p.shadows.length - depth
  { (p.shadows.take n).foldl Process.unshadow p with shadows := p.shadows.drop n }

/-- Does the process go on after this? -/
def Stop.isSkip : Stop → Bool
  | .leaveLoop _ | .nextRound _ | .returned _ => true
  | _ => false

/-- Runs something after which variables are what they were, unless the process ends. -/
def shadowing (m : Run Unit) : Run Unit := do
  let depth := (← self).shadows.length
  setSelf fun p => { p with shadows := ⟨[], none⟩ :: p.shadows }
  let r ← observe m
  let ends := match r with
    | .ok () => false
    | .error stop => !stop.isSkip
  unless ends do setSelf (Process.unwind depth)
  resume r

/-- A number that a command takes. -/
def operandNumber (operand : String) : Run Nat := do
  match operand? operand with
  | some n => return n
  | none => fail ("Illegal number: " ++ operand)

/-- The options before the operands of a command: letters, some with an operand. -/
structure Options where
  letters : List (Char × Option String)
  operands : List String

def Options.has (o : Options) (c : Char) : Bool := o.letters.any (·.1 = c)

/-- Why the options of a command cannot be read. -/
inductive OptionFault where
  | illegal (c : Char)
  | noOperand (c : Char)

def OptionFault.text : OptionFault → String
  | .illegal c => "Illegal option -" ++ String.singleton c
  | .noOperand c => "No arg for -" ++ String.singleton c ++ " option"

/-- `allowed` holds the letters there are, those with an operand followed by a colon. -/
def optionLetters (allowed : List Char) (cs : List Char) (rest : List String) :
    Except OptionFault (List (Char × Option String) × List String) :=
  match cs with
  | [] => .ok ([], rest)
  | c :: cs =>
    match allowed.dropWhile (· ≠ c) with
    | [] => .error (.illegal c)
    | _ :: ':' :: _ =>
      match cs, rest with
      | [], [] => .error (.noOperand c)
      | [], a :: rest => .ok ([(c, some a)], rest)
      | cs, rest => .ok ([(c, some (String.ofList cs))], rest)
    | _ => (optionLetters allowed cs rest).map fun (ls, rest) => ((c, none) :: ls, rest)

/-- Fuel is the number of arguments. -/
def optionsFrom (allowed : List Char) : Nat → List String → Except OptionFault Options
  | fuel + 1, a :: rest =>
    match a.toList with
    | '-' :: c :: cs =>
      if c = '-' && cs = [] then .ok ⟨[], rest⟩
      else do
        let (ls, rest) ← optionLetters allowed (c :: cs) rest
        let o ← optionsFrom allowed fuel rest
        return { o with letters := ls ++ o.letters }
    | _ => .ok ⟨[], a :: rest⟩
  | _, args => .ok ⟨[], args⟩

def options (allowed : String) (args : List String) : Run Options := do
  match optionsFrom allowed.toList args.length args with
  | .ok o => return o
  | .error fault => fail fault.text

end TraceView.Shell
