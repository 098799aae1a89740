import TraceView.Shell.Child
import TraceView.Shell.Lookup
import TraceView.Shell.Programs

/-!
# Starting a shell

What a shell is asked to run, and what its process has at first.
-/

namespace TraceView.Shell

/-- Where the script comes from. -/
inductive ScriptSource where
  /-- The input may follow. -/
  | text (script : String) (more : Bool)
  | standardInput
  | file (path : String)
  | missing

structure Invocation where
  source : ScriptSource
  name : String
  args : List String
  options : List Char

/-- The options and the arguments after them, and whether one of these is the script. -/
structure StartSwitches where
  options : List Char
  rest : List String
  command : Bool

/-- Fuel is the number of arguments. -/
def startSwitches (options : List Char) : Nat → List String → Except SwitchFault StartSwitches
  | fuel + 1, arg :: rest =>
    match arg.toList with
    | ['-'] | ['-', '-'] => .ok ⟨options, rest, false⟩
    | sign :: cs =>
      if sign = '-' || sign = '+' then do
        let letters := cs.filter fun c => c ≠ 'c' && c ≠ 'l'
        let (options, rest, _) ← switchLetters (sign = '-') options rest letters
        let s ← startSwitches options fuel rest
        return { s with command := s.command || cs.contains 'c' }
      else .ok ⟨options, arg :: rest, false⟩
    | [] => .ok ⟨options, arg :: rest, false⟩
  | _, args => .ok ⟨options, args, false⟩

def Invocation.ofArgs (name : String) (args : List String) : Except SwitchFault Invocation := do
  let s ← startSwitches [] args.length args
  let more := s.options.contains 's'
  return match s.command, s.rest with
    | true, [] => ⟨.missing, name, [], s.options⟩
    | true, [script] => ⟨.text script more, name, [], s.options⟩
    | true, script :: name :: args => ⟨.text script more, name, args, s.options⟩
    | false, [] => ⟨.standardInput, name, [], switchOption true 's' s.options⟩
    | false, path :: args =>
      if more then ⟨.standardInput, name, path :: args, s.options⟩
      else ⟨.file path, path, args, s.options⟩

/-- A text as a script; characters that no script holds are left out. -/
def scriptText (cs : List Char) : String := String.ofList (cs.filter (· ≠ '\x00'))

def inputScript : Run String := do return scriptText (← takeInput)

/-- The script itself. -/
def Invocation.script (i : Invocation) : Run String := do
  match i.source with
  | .text script _ => return script
  | .standardInput => inputScript
  | .missing => fail "-c requires an argument"
  | .file path =>
    match ← readFile path with
    | .ok cs => return scriptText cs
    | .error fault =>
      if fault = .isADirectory then return ""
      else fail ("cannot open " ++ path ++ ": No such file")

/-- Is there more of the script in the input? -/
def Invocation.goesOn (i : Invocation) : Bool := i.source matches .text _ true

/-- Variables of a new shell: those it is given, and those that every shell has. -/
def startVariables (p : Process) (parent : Nat) : Keyed String Variable :=
  let given := p.vars.filter fun e => e.2.exported && isName e.1
  let plain := fun s : String => Variable.mk (some s) false false
  let set := [("IFS", " \t\n"), ("OPTIND", "1"), ("PPID", toString parent), ("PS1", "# "),
    ("PS2", "> "), ("PS4", "+ ")]
  let vars := set.foldl (fun vars e => Keyed.insert vars e.1 (plain e.2))
    (given.map fun e => (e.1, { e.2 with readOnly := false }))
  let vars := if (Keyed.get? vars "PATH").isSome then vars
    else Keyed.insert vars "PATH" (plain standardPath)
  Keyed.insert vars "PWD" ⟨some (Text.octets p.cwd), true, false⟩

/-- What a new shell process starts with. -/
def newProcess (i : Invocation) (pid : Nat) (p : Process) : Process where
  name := i.name
  pid
  copied := false
  ancestors := p.pid :: p.ancestors
  args := i.args
  vars := startVariables p p.pid
  traps := []
  ignored := p.ignoredSignals
  held := none
  functions := []
  hashed := []
  aliases := []
  options := i.options
  optionPlace := ⟨1, none⟩
  loops := 0
  calls := 0
  shadows := []
  line := 1
  readLine := 1
  within := none
  tested := false
  cwd := p.cwd
  descriptors := p.descriptors
  status := 0
  substituted := none
  background := none
  jobs := []
  job := p.job
  umask := p.umask

end TraceView.Shell
