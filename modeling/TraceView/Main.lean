import TraceView.Program.TraceOnce

/-!
# The command line

Puts the files that a command line, the environment and the settings can name into a machine,
starts the program on it, and passes bytes between a host and the editor at the standard streams.
-/

namespace TraceView.CommandLine

open TraceView.Editor (Frame.Reading Host)
open TraceView.Machine (Journal Tree)
open TraceView.Program (Ending Started)

def consulted : List String :=
  ["PATH", "HOME", "TMPDIR", "XDG_CONFIG_HOME", "LIVE_TRACE_LOG", "PYTHON_EXECUTABLE"] ++
    Interpreter.homeVariables

def environment : IO (Keyed String String) := do
  let values ← consulted.mapM fun name => do return (name, ← IO.getEnv name)
  return Keyed.ofList (values.filterMap fun e => e.2.map fun value => (e.1, value))

/-- Puts what a path names into the machine, or else the directory above it; programs that the
machine has stay. A directory can be opened but not read. -/
def mount (m : Machine) (p : Path) : IO Machine := do
  let full := Path.join m.cwd p
  if (m.tree.program? m.cwd full).isSome then return m
  match ← (IO.FS.readBinFile full).toBaseIO with
  | .ok bytes => return { m with tree := m.tree.addFile full bytes.toList }
  | .error _ =>
    for dir in full :: (Path.parent? full).toList do
      if let .ok _ ← (IO.FS.Handle.mk dir .read).toBaseIO then
        return { m with tree := m.tree.addDirectory dir }
    return m

/-- Paths known before the settings are. -/
def knownPaths (m : Machine) (args : List String) : List Path :=
  let values := args.filterMap fun arg => (Program.attached? arg).map (·.2)
  args ++ values ++ ((Settings.configDir? m.env?).map Settings.defaultPath).toList ++
    Interpreter.allCandidates m.env? none ++ [m.tempDir]

def settingsPaths (m : Machine) (args : List String) : List Path :=
  let config := match Program.Invocation.read args with
    | .ok i => i.globals.config
    | .error _ => none
  match Program.loadSettings m config with
  | .ok s => s.pythonPath.toList ++ s.workspaceRoot.toList
  | .error _ => []

def machine (args : List String) : IO Machine := do
  let cwd := toString (← IO.currentDir)
  let m : Machine := ⟨Tree.base.addDirectory cwd, cwd, ← environment⟩
  let m ← (knownPaths m args).foldlM mount m
  (settingsPaths m args).foldlM mount m

/-- Directories that a message can make runs start in. -/
def namedDirectories : Frame.Reading → List Path
  | .message ⟨_, _, .request _ (some arguments)⟩ =>
    match arguments.field? "path" with
    | some (.string p) => (Path.parent? p).toList
    | _ => []
  | _ => []

def saveJournal (journal : Journal) (m : Machine) : IO Unit := do
  if let some place := journal.file then
    if let .ok bytes := m.tree.readBytes m.cwd place then
      IO.FS.writeBinFile place ⟨bytes.toArray⟩

def flushSent (output : IO.FS.Stream) (h : Host) : IO Host := do
  let (h, sent) := h.takeSent
  for m in sent do
    output.putStr (Editor.Frame.write m)
  output.flush
  return h

/-- Everything that is due by now. -/
partial def catchUp (now : Nat) (h : Host) : Host :=
  match h.advance? now with
  | some h => catchUp now h
  | none => { h with clock := max h.clock now }

/-- The rest of the line, or of a body if the header announced one; empty at the end. -/
partial def readMore (input : IO.FS.Stream) (sofar : ByteArray) (missing : Nat) : IO ByteArray := do
  let bytes ← input.read missing.toUSize
  if missing = 1 ∧ !bytes.isEmpty ∧ bytes[0]? ≠ some 0x0A then
    readMore input (sofar ++ bytes) missing
  else return sofar ++ bytes

def listen (input : IO.FS.Stream) (h : Host) : BaseIO (Task (Except IO.Error ByteArray)) :=
  IO.asTask (readMore input .empty (Editor.Frame.missing .most h.input))

def receive (h : Host) (bytes : List UInt8) : IO Host := do
  let named := (Editor.Frame.readAll .most (h.input ++ bytes)).flatMap namedDirectories
  return { h with machine := ← named.foldlM mount h.machine }.receive bytes

partial def serve (input output : IO.FS.Stream) (start : Nat) (h : Host)
    (pending : Task (Except IO.Error ByteArray)) : IO Host := do
  let h ← flushSent output (catchUp ((← IO.monoMsNow) - start) h)
  saveJournal h.journal h.machine
  if !h.serving then return h
  if !(← IO.hasFinished pending) then
    IO.sleep 5
    serve input output start h pending
  else
    let bytes ← IO.ofExcept pending.get
    if bytes.isEmpty then
      let h := h.close
      if h.serving then IO.sleep 5
      serve input output start h pending
    else
      let h ← receive h bytes.toList
      serve input output start h (← listen input h)

def finish (e : Ending) : IO UInt32 := do
  (← IO.getStdout).putStr e.stdout
  if let some failure := e.failure then (← IO.getStderr).putStrLn failure.text
  return e.code.toUInt32

end TraceView.CommandLine

open TraceView in
def main (args : List String) : IO UInt32 := do
  let m ← CommandLine.machine args
  if args.head? = some "trace-once" then CommandLine.finish (Program.traceOnce m args.tail)
  else
    match Program.start m args with
    | .ended e => CommandLine.finish e
    | .serving h =>
      let input ← IO.getStdin
      let h ← CommandLine.serve input (← IO.getStdout) (← IO.monoMsNow) h
        (← CommandLine.listen input h)
      CommandLine.saveJournal h.journal h.machine
      CommandLine.finish (Program.hostEnding h)
