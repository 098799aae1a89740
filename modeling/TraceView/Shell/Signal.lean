import TraceView.Shell.Process
import TraceView.Shell.Quoting

/-!
# Signals

Signals have numbers and names. What a process does about one is a text to be run, an empty text to
ignore it, or what the system does by itself.
-/

namespace TraceView.Shell

/-- The first signals by their numbers; a number stands for one without a name. -/
def namedSignals : List String :=
  ["EXIT", "HUP", "INT", "QUIT", "ILL", "TRAP", "ABRT", "BUS", "FPE", "KILL", "USR1", "SEGV", "USR2",
    "PIPE", "ALRM", "TERM", "16", "CHLD", "CONT", "STOP", "TSTP", "TTIN", "TTOU", "URG", "XCPU",
    "XFSZ", "VTALRM", "PROF", "WINCH", "IO", "PWR", "SYS", "32", "33"]

/-- The signals without a fixed meaning, counted from the first and from the last. -/
def freeSignals : List String :=
  "RTMIN" :: ((List.range 15).map fun n => "RTMIN+" ++ toString (n + 1)) ++
    ((List.range 14).reverse.map fun n => "RTMAX-" ++ toString (n + 1)) ++ ["RTMAX"]

def signals : List String := namedSignals ++ freeSignals

def signalName? (n : Nat) : Option String := signals[n]?

/-- A number that is one of a signal. -/
def signalNumber? (s : String) : Option Nat :=
  if s ≠ "" && s.toList.all Char.isDigit then s.toNat?.filter (· < signals.length) else none

def upperText (s : String) : String := String.ofList (s.toList.map Char.toUpper)

/-- A signal by its number or by its name, whatever the case; `least` is the first with a name. -/
def signal? (least : Nat) (s : String) : Option Nat :=
  (signalNumber? s).or (((signals.idxOf? (upperText s))).filter (least ≤ ·))

def killSignal : Nat := 9

def terminationSignal : Nat := 15

/-- Signals that do nothing by themselves. -/
def isHarmless (signal : Nat) : Bool :=
  signal = 0 || (17 ≤ signal && signal ≤ 23) || signal = 28

/-- What is said of a process that a signal ended. -/
def signalText? (signal : Nat) : Option String :=
  match signal with
  | 1 => some "Hangup"
  | 3 => some "Quit"
  | 4 => some "Illegal instruction"
  | 5 => some "Trace/breakpoint trap"
  | 6 => some "Aborted"
  | 7 => some "Bus error"
  | 8 => some "Floating point exception"
  | 9 => some "Killed"
  | 10 => some "User defined signal 1"
  | 11 => some "Segmentation fault"
  | 12 => some "User defined signal 2"
  | 14 => some "Alarm clock"
  | 15 => some "Terminated"
  | 16 => some "Stack fault"
  | 24 => some "CPU time limit exceeded"
  | 25 => some "File size limit exceeded"
  | 26 => some "Virtual timer expired"
  | 27 => some "Profiling timer expired"
  | 29 => some "I/O possible"
  | 30 => some "Power failure"
  | 31 => some "Bad system call"
  | n => if 34 ≤ n then some ("Real-time signal " ++ toString (n - 34)) else none

/-- Tells that a signal ended a process that was waited for. -/
def reportSignal (signal : Nat) : Run Unit := do
  if let some text := signalText? signal then writeError text

def listTraps : Keyed Nat String → List Char
  | [] => []
  | (n, action) :: rest =>
    ("trap -- " ++ valueQuoted action ++ " " ++ (signalName? n).getD "" ++ "\n").toList ++
      listTraps rest

/-- Changes what is done about signals; stops at a name that is none. -/
def setTraps (action : Option String) : List String → Run Unit
  | [] => setStatus 0
  | name :: rest => do
    match signal? 0 name with
    | none =>
      writeError ("trap: " ++ name ++ ": bad trap")
      setStatus 1
    | some n =>
      setSelf fun p => { p with traps := match action with
        | some a => Keyed.insert p.traps n a
        | none => Keyed.erase p.traps n }
      setTraps action rest

/-- A single operand, or a number as the first one, asks for what the system does by itself. -/
def trapAction (args : List String) : Option String × List String :=
  match args with
  | action :: name :: rest =>
    if (signalNumber? action).isSome then (none, args)
    else (if action = "-" then none else some action, name :: rest)
  | args => (none, args)

def killUsage : String :=
  "Usage: kill [-s sigspec | -signum | -sigspec] [pid | job]... or\nkill -l [exitstatus]"

inductive KillRequest where
  | send (signal : Nat) (targets : List String)
  | list (status : Option String)

def killRequest (args : List String) : Run KillRequest := do
  match args with
  | [] => fail killUsage
  | first :: rest =>
    match first.toList with
    | '-' :: cs =>
      match signal? 1 (String.ofList cs) with
      | some n => if rest = [] then fail killUsage else return .send n rest
      | none =>
        let o ← options "ls:" args
        let named := o.letters.filterMap fun e => if e.1 = 's' then e.2 else none
        match named.find? fun s => (signal? 1 s).isNone with
        | some bad => fail ("invalid signal number or name: " ++ bad)
        | none =>
          match o.has 'l', named.getLast?.bind (signal? 1), o.operands with
          | true, none, operands => return .list operands.head?
          | false, signal, target :: more =>
            return .send (signal.getD terminationSignal) (target :: more)
          | _, _, _ => fail killUsage
    | _ => return .send terminationSignal args

/-- The name of the signal that a status stands for. -/
def statusSignal (status : String) : Run String := do
  let n ← operandNumber status
  let n := if 128 < n then n - 128 else n
  match if n = 0 then none else signalName? n with
  | some name => return name
  | none => fail ("invalid signal number or exit status: " ++ status)

end TraceView.Shell
