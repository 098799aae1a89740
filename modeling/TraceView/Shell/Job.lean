import TraceView.Shell.Child
import TraceView.Shell.Settings

/-!
# Jobs

Jobs are the processes in the background. They are waited for, listed, and sent signals.
-/

namespace TraceView.Shell

def Job.course? (w : World) (j : Job) : Option Course := Keyed.get? w.courses j.pid

/-- Is it known by now that the process has ended? -/
def Course.isOver (c : Course) (clock : Nat) : Bool := c.noticed || c.time < clock

def noticeEnd (pid : Nat) : Run Unit :=
  setWorld fun w => { w with
    courses := Keyed.modify w.courses pid fun c => { c with noticed := true } }

def setWaited (pid : Nat) : Run Unit :=
  setSelf fun p => { p with
    jobs := p.jobs.map fun j => if j.pid = pid then { j with waited := true } else j }

def currentJob : Run Job := do
  match (← self).jobs with
  | j :: _ => return j
  | [] => fail "No current job"

def previousJob : Run Job := do
  match (← self).jobs with
  | _ :: j :: _ => return j
  | _ => fail "No previous job"

/-- The job that a name stands for. -/
def jobNamed (name : String) : Run Job := do
  match name.toList with
  | ['%'] | ['%', '+'] | ['%', '%'] => currentJob
  | ['%', '-'] => previousJob
  | cs =>
    let number := if cs.head? = some '%' then (String.ofList cs.tail).toNat? else none
    let jobs := (← self).jobs
    match number.bind fun n => jobs.find? (·.number = n) with
    | some j => return j
    | none => fail ("No such job: " ++ name)

/-- The first signal with an action that comes before a wait is over. -/
def interruption? (ending : Nat) : Run (Option Sent) := do
  let p ← self
  let answered := fun s => p.hasReceived ending s && (Keyed.get? p.traps s.signal).any (· ≠ "")
  return ((← world).signals.filter answered).mergeSort (·.time ≤ ·.time) |>.head?

/-- Lets time pass; says which signal made it end early. -/
def waitUntil (ending : Nat) : Run (Option Nat) := do
  nextTurn
  let s? ← interruption? ending
  setWorld fun w => { w with clock := max w.clock (s?.elim ending (·.time)) }
  return s?.map (·.signal)

/-- The job that is named or has the number, if there is one of that number. -/
def jobAt (name : String) : Run (Option Job) := do
  if name.toList.head? = some '%' then return some (← jobNamed name)
  else
    let pid ← operandNumber name
    return (← self).jobs.find? (·.pid = pid)

/-- Waits for jobs one after the other; `status` is that of the one before. -/
def waitEach (status : Nat) : List String → Run Unit
  | [] => setStatus status
  | name :: rest => do
    let job? ← jobAt name
    let w ← world
    match job?, job?.bind (·.course? w) with
    | some j, some c =>
      match ← waitUntil c.time with
      | some signal => setStatus (128 + signal)
      | none =>
        if let .signalled signal := c.ending then
          unless c.noticed do reportSignal signal
        noticeEnd j.pid
        setWaited j.pid
        waitEach c.ending.status rest
    | _, _ => waitEach status rest

def waitCommand (args : List String) : Run Unit := do
  let o ← options "" args
  if o.operands = [] then
    let w ← world
    let jobs := (← self).jobs
    let ends := jobs.filterMap fun j => (j.course? w).map (·.time)
    match ← waitUntil (ends.foldl max 0) with
    | some signal => setStatus (128 + signal)
    | none =>
      for j in jobs do
        noticeEnd j.pid
        setWaited j.pid
      setStatus 0
  else waitEach 127 o.operands

def Ending.text : Ending → String
  | .exited 0 => "Done"
  | .exited n => "Done(" ++ toString n ++ ")"
  | .signalled 2 => "Interrupt"
  | .signalled 13 => "Broken pipe"
  | .signalled n => (signalText? n).getD ""

inductive JobDetail where
  | state
  | stateAndPid
  | pidOnly
  deriving DecidableEq, Repr

/-- The line of a job, with the state in a column of its own. -/
def jobLine (detail : JobDetail) (mark : Char) (j : Job) (state : String) : List Char :=
  if detail = .pidOnly then (toString j.pid ++ "\n").toList
  else
    let number := ("[" ++ toString j.number ++ "] ").toList ++ [mark, ' ']
    let pid := if detail = .stateAndPid then (toString j.pid ++ " ").toList else []
    let line := number ++ pid ++ state.toList
    line ++ List.replicate (max 1 (33 - line.length)) ' ' ++ ['\n']

/-- The line of a job; one that has ended is forgotten once it was listed. -/
def listJob (detail : JobDetail) (j : Job) : Run (List Char) := do
  let w ← world
  let pids := (← self).jobs.map (·.pid)
  let mark := if pids.head? = some j.pid then '+' else if pids[1]? = some j.pid then '-' else ' '
  match (j.course? w).filter (·.isOver w.clock) with
  | some c =>
    unless detail = .pidOnly do
      noticeEnd j.pid
      setSelf fun p => { p with jobs := p.jobs.filter (·.pid ≠ j.pid) }
    return jobLine detail mark j c.ending.text
  | none => return jobLine detail mark j "Running"

def jobsCommand (args : List String) : Run Unit := do
  let o ← options "lp" args
  let detail := match o.letters.getLast?.map (·.1) with
    | some 'l' => JobDetail.stateAndPid
    | some _ => .pidOnly
    | none => .state
  let jobs := (← self).jobs
  let listed ← if o.operands = [] then pure jobs else o.operands.mapM jobNamed
  let lines ← listed.mapM (listJob detail)
  put "jobs" lines.flatten

/-- Jobs cannot be moved between the background and the foreground. -/
def moveJob (args : List String) : Run Unit := do
  let o ← options "" args
  match o.operands with
  | [] =>
    let _ ← currentJob
    fail "job (null) not created under job control"
  | name :: _ =>
    let _ ← jobNamed name
    fail ("job " ++ name ++ " not created under job control")

/-- A process in the background ends early: what it would have written is not written. -/
def cutShort (pid signal : Nat) : Run Unit :=
  setWorld fun w => { w with
    writes := w.writes.filter fun e =>
      e.job ≠ pid || e.time < w.clock || (e.time = w.clock && e.turn < w.turn)
    courses := Keyed.modify w.courses pid fun c =>
      { c with time := w.clock, ending := .signalled signal } }

/-- False if there is no such process. -/
def sendSignal (signal pid : Nat) : Run Bool := do
  let p ← self
  let w ← world
  if p.pid = pid || p.ancestors.contains pid then
    if signal ≠ 0 then
      setWorld fun w => { w with signals := w.signals ++ [⟨pid, signal, w.clock⟩] }
      checkDeadly
    return true
  else
    match (Keyed.get? w.courses pid).filter fun c => !c.isOver w.clock with
    | some c =>
      let dead := c.time ≤ w.clock && c.ending matches .signalled _
      unless dead || isHarmless signal || (signal ≠ killSignal && c.ignored.contains signal) do
        cutShort pid signal
      return true
    | none => return false

/-- Is a process there, or a group of them? Groups are not known. -/
def sendTo (signal : Nat) (target : String) : Run Bool := do
  match target.toList with
  | '%' :: _ =>
    let _ ← jobNamed target
    return false
  | '-' :: group =>
    let _ ← operandNumber (String.ofList group)
    return false
  | _ => sendSignal signal (← operandNumber target)

def killCommand (args : List String) : Run Unit := do
  match ← killRequest args with
  | .list none => put "kill" (unlines ("0" :: signals.tail))
  | .list (some status) => put "kill" (unlines [← statusSignal status])
  | .send signal targets =>
    setStatus 0
    for target in targets do
      unless ← sendTo signal target do
        complain "No such process\n"
        setStatus 1

end TraceView.Shell
