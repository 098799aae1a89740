import TraceView.Machine.Tree
import TraceView.Run.Launch
import TraceView.Shell.Run

/-!
# Machines

A machine has files, a working directory and an environment, and runs programs: what a process will
do is determined when it starts. Killing it cuts that short.
-/

namespace TraceView

open TraceView.Machine (Tree Program)
open TraceView.Run (LaunchSpec Outcome)
open TraceView.Shell (Write)

structure Machine where
  tree : Tree
  cwd : Path
  env : Keyed String String

/-- What a process does if it is left alone. -/
structure Machine.Transcript where
  writes : List Write
  /-- None if a signal ends it. -/
  code : Option Nat
  /-- Milliseconds from the start to the end. -/
  duration : Nat
  /-- The files afterwards. -/
  tree : Tree

namespace Machine

def env? (m : Machine) (name : String) : Option String := Keyed.get? m.env name

def searchPath (m : Machine) : List Path :=
  Shell.searchPath ((m.env? "PATH").getD "")

def isUsable (m : Machine) (p : Path) : Bool :=
  m.tree.isUsable m.cwd m.searchPath p

/-- Directory for temporary files. -/
def tempDir (m : Machine) : Path := (m.env? "TMPDIR").getD "/tmp"

def hasNul (s : String) : Bool := s.toList.contains '\x00'

def nulFault : Fault := ⟨.other, "nul byte found in provided data"⟩

def directoryAt (m : Machine) (p : Path) : Except Fault Path := do
  match ← m.tree.find m.cwd p with
  | (place, .directory) => return place
  | _ => throw .notADirectory

def programAt (m : Machine) (cwd p : Path) : Except Fault Program := do
  match ← m.tree.find cwd p with
  | (_, .program q) => return q
  | _ => throw .denied

/-- The first program of that name on the search path. A file that is no program is worth a fault of
its own. -/
def onSearchPath (m : Machine) (cwd : Path) (name : String) : Except Fault Program :=
  let found := m.searchPath.map fun dir => m.programAt cwd (Path.join dir name)
  match found.findSome? Except.toOption with
  | some q => .ok q
  | none =>
    if found.any fun r => match r with
      | .error fault => fault.kind = .permissionDenied
      | .ok _ => false
    then .error .denied else .error .noSuchFile

/-- What a launch starts, and where. The directory is entered first. -/
def resolve (m : Machine) (spec : LaunchSpec) : Except Fault (Program × Path) := do
  if (spec.program :: spec.args ++ spec.cwd.toList).any hasNul then throw nulFault
  let cwd ← match spec.cwd with
    | none => pure m.cwd
    | some dir => m.directoryAt dir
  if spec.program = "" then throw .noSuchFile
  let program ← if spec.program.toList.contains '/' then m.programAt cwd spec.program
    else m.onSearchPath cwd spec.program
  return (program, cwd)

/-- Fuel for a process; one that needs more counts as ended by a signal. -/
def patience : Nat := 100000

/-- Numbers of processes and inputs begin above this one. -/
def firstNumber : Nat := 1000

/-- Others may not write what one process makes. -/
def usualUmask : Nat := 18

def initialProcess (m : Machine) (spec : LaunchSpec) (cwd : Path) : Shell.Process where
  name := Text.octets spec.program
  pid := firstNumber
  copied := false
  ancestors := []
  args := spec.args.map Text.octets
  vars := m.env.foldl (fun vars e =>
    Keyed.insert vars (Text.octets e.1) ⟨some (Text.octets e.2), true, false⟩) []
  traps := []
  ignored := []
  held := none
  functions := []
  hashed := []
  aliases := []
  options := []
  optionPlace := ⟨1, none⟩
  loops := 0
  calls := 0
  shadows := []
  line := 0
  readLine := 0
  within := none
  tested := false
  cwd
  descriptors := [(0, if spec.stdin.isSome then .input 0 else .null), (1, .output .stdout),
    (2, .output .stderr)]
  status := 0
  substituted := none
  background := none
  jobs := []
  job := 0
  umask := usualUmask

def initialWorld (m : Machine) (stdin : String) : Shell.World where
  tree := m.tree
  clock := 0
  turn := 0
  lastTurn := 0
  inputs := [(0, ⟨(Text.octets stdin).toList, 0⟩)]
  writers := []
  writes := []
  numbers := firstNumber + 1
  courses := []
  documents := []
  signals := []

/-- When the last process ends. -/
def lastEnd (w : Shell.World) : Nat := w.courses.foldl (fun n e => max n e.2.time) w.clock

def Transcript.ofState (stop : Except Shell.Stop Unit) (s : Shell.State) : Transcript where
  writes := s.world.writes.reverse.mergeSort Shell.Write.isBefore
  code := match stop with
    | .error (.killed _) | .error .spent => none
    | _ => some (s.process.status % 256)
  duration := lastEnd s.world
  tree := s.world.tree

/-- Runs a program to its end. -/
def run (m : Machine) (spec : LaunchSpec) : Except Fault Transcript := do
  let (program, cwd) ← m.resolve spec
  let start : Shell.State :=
    ⟨m.initialProcess spec cwd, m.initialWorld (spec.stdin.getD "")⟩
  let execute := Shell.execute patience program start.process.name start.process.args
  let (stop, s) := execute.run start
  return .ofState stop s

namespace Transcript

/-- A process lasts some time, even if it has nothing to do. -/
def lifetime (t : Transcript) : Nat := max 1 t.duration

def textOf (writes : List Write) (output : Shell.Output) : String :=
  Text.Utf8.lenient ((writes.filter (·.output = output)).flatMap (·.bytes))

/-- How it ends; `killed` is the time at which it is killed, if that happens before its end. -/
def outcome (t : Transcript) (killed : Option Nat) : Outcome :=
  match killed with
  | none =>
    .exited (t.code.map Int.ofNat) (textOf t.writes .stdout) (textOf t.writes .stderr)
  | some time =>
    let writes := t.writes.filter (·.time < time)
    .exited none (textOf writes .stdout) (textOf writes .stderr)

end Transcript

/-- Milliseconds between two looks at a process. -/
def pollInterval : Nat := 25

/-- When an end at that time is noticed; the look at the very start sees nothing. -/
def noticed (time : Nat) : Nat :=
  pollInterval * max 1 ((time + pollInterval - 1) / pollInterval)

end Machine

end TraceView
