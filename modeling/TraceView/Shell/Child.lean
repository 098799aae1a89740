import TraceView.Shell.Signal

/-!
# Children

Parts of a script run in a copy of the process: what they change in it is lost, only the status is
kept. A child in the background runs ahead, and the clock goes back to when it was started.
-/

namespace TraceView.Shell

/-- A signal that is neither ignored nor answered ends the process. -/
def Process.isDeadly (p : Process) (signal : Nat) : Bool :=
  signal = killSignal ||
    !(p.ignored.contains signal || (Keyed.get? p.traps signal).isSome || isHarmless signal)

/-- Was the signal sent to this process by now? A copy does not answer for the process. -/
def Process.hasReceived (p : Process) (clock : Nat) (s : Sent) : Bool :=
  !p.copied && s.pid = p.pid && s.time ≤ clock

def checkDeadly : Run Unit := do
  let p ← self
  let w ← world
  match w.signals.find? fun s => p.hasReceived w.clock s && p.isDeadly s.signal with
  | some s => throw (.killed s.signal)
  | none => return ()

/-- The lowest number that is free. A job that was waited for makes way. -/
def jobNumber : Run Nat := do
  let jobs := (← self).jobs
  let taken := fun n => jobs.any fun j => j.number = n && !j.waited
  let n := (((List.range (jobs.length + 1)).map (· + 1)).find? (!taken ·)).getD 0
  setSelf fun p => { p with jobs := p.jobs.filter (·.number ≠ n) }
  return n

/-- Whoever waits for a child notices which jobs have ended before. -/
def noticeEnds : Run Unit := do
  let pids := (← self).jobs.map (·.pid)
  setWorld fun w => { w with courses := w.courses.map fun (pid, c) =>
    (pid, { c with noticed := c.noticed || (pids.contains pid && c.time < w.clock) }) }

/-- A copy ignores what the process ignores, and does nothing else about signals. -/
def Process.copy (p : Process) : Process :=
  { p with
    copied := true
    readLine := 1
    traps := p.traps.filter (·.2 = "")
    jobs := [] }

/-- Signals that the process ignores, as its children do. -/
def Process.ignoredSignals (p : Process) : List Nat :=
  p.ignored ++ (p.traps.filter (·.2 = "")).map (·.1)

/-- Runs something in a copy of the process; signals to the process wait. -/
def inCopy (m : Run Unit) : Run Unit := do
  let _ ← jobNumber
  nextTurn
  let before ← self
  setSelf Process.copy
  let r ← observe m
  setSelf fun p => { before with status := p.status % 256 }
  noticeEnds
  match r with
  | .error .spent => throw .spent
  | .error (.killed signal) =>
    reportSignal signal
    setStatus (128 + signal)
  | _ => return ()

/-- Runs something in a copy of the process. -/
def apart (m : Run Unit) : Run Unit := do
  inCopy m
  checkDeadly

def setDescriptor (n : Nat) (channel : Option Channel) : Run Unit :=
  setSelf fun p => { p with descriptors := match channel with
    | some c => Keyed.insert p.descriptors n c
    | none => Keyed.erase p.descriptors n }

/-- Waits for those in the background that write to what is collected. -/
def awaitWriters (n : Nat) : Run Unit :=
  setWorld fun w =>
    let ends := (w.writers.filter (·.1 = n)).filterMap fun e =>
      (Keyed.get? w.courses e.2).map (·.time)
    { w with clock := ends.foldl max w.clock }

/-- What was collected, in order. -/
def takeCollected (n : Nat) : Run (List Char) :=
  modifyGet fun s =>
    let (here, others) := s.world.writes.partition (·.output = .collected n)
    let bytes := (here.reverse.mergeSort Write.isBefore).flatMap (·.bytes)
    (bytes.map fun b => Char.ofNat b.toNat, { s with world := { s.world with writes := others } })

/-- Runs something whose standard output is collected, and how it ended. -/
def collect (m : Run Unit) : Run (Except Stop Unit × List Char) := do
  let n ← freshNumber
  let before := (← self).descriptors
  setDescriptor 1 (some (.output (.collected n)))
  let r ← observe m
  setSelf fun p => { p with descriptors := before }
  awaitWriters n
  noticeEnds
  return (r, ← takeCollected n)

/-- Two processes at the same time, the first writing what the second reads. A first one without end
writes for as long as it is waited for. `between` is done when the first has started. -/
def piped (first between rest : Run Unit) : Run Unit := do
  let start := (← world).clock
  let status := (← self).status
  let (r, cs) ← collect (inCopy first)
  unless r matches .error .spent do resume r
  setStatus status
  let ready := (← world).clock
  setWorld fun w => { w with clock := start }
  between
  apart do
    setDescriptor 0 (some (← newInput cs ready))
    rest
  setWorld fun w => { w with clock := max ready w.clock }

/-- What a process writes to that somebody else collects. -/
def Process.collections (p : Process) : List Nat :=
  p.descriptors.filterMap fun e => match e.2 with
    | .output (.collected n) => some n
    | _ => none

/-- Starts something that is not waited for; `redirected` says which descriptors it has of its own. -/
def inBackground (redirected : List Nat) (m : Run Unit) : Run Unit := do
  let number ← jobNumber
  let pid ← freshNumber
  let start ← world
  nextTurn
  let before ← self
  setSelf fun p => { p.copy with job := pid, tested := false }
  setDescriptor 0 (some .null)
  let given := { before with
    descriptors := before.descriptors.filter fun e => !redirected.contains e.1 }
  let r ← observe m
  let status := (← self).status % 256
  setSelf fun _ => { before with
    status := 0
    background := some pid
    jobs := ⟨number, pid, false⟩ :: before.jobs }
  let ending := match r with
    | .error (.killed signal) => Ending.signalled signal
    | _ => .exited status
  setWorld fun w => { w with
    clock := start.clock
    turn := start.turn
    writers := (given.collections.map (·, pid)) ++ w.writers
    courses := Keyed.insert w.courses pid ⟨w.clock, ending, before.ignoredSignals, false⟩ }
  if r matches .error .spent then throw .spent

end TraceView.Shell
