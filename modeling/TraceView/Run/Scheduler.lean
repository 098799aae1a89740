import TraceView.Run.Availability
import TraceView.Run.Delivery
import TraceView.Run.Life
import TraceView.Run.SourceCopy

/-!
# The scheduler

Decides when the tracer runs for each open document. It is a state that its host moves by requests,
clock readings and completions; a move returns the new state, which holds the notices and events
not yet taken. No move calls itself: starting a run may start a probe, and a probe that cannot be
started only prompts.
-/

namespace TraceView.Run

inductive Trigger where
  | save
  | change
  | explicit
  deriving DecidableEq, Repr

inductive NotRunReason where
  | unavailable
  | launchFailed
  | noRequest
  deriving DecidableEq, Repr

inductive Decision where
  | launched (token : Token)
  | debounced (due : Nat)
  | awaitingAvailability
  | notRun (reason : NotRunReason)
  deriving DecidableEq, Repr

def NotRunReason.name : NotRunReason → String
  | .unavailable => "Unavailable"
  | .launchFailed => "LaunchFailed"
  | .noRequest => "NoRequest"

/-- What is kept of an open document. -/
structure Slot where
  request : Option Snapshot
  due : Option Nat
  /-- The interpreter whose verdict or install the document waits for. -/
  gatedOn : Option Path
  prompted : Bool
  /-- The token whose result will be delivered. -/
  latest : Option Token
  active : Option TraceRun
  ended : Option (Token × RunState)
  scratch : Option Path
  deriving DecidableEq, Repr

def Slot.empty : Slot := ⟨none, none, none, false, none, none, none, none⟩

def Slot.isGatedOn (slot : Slot) (interpreter : Path) : Bool :=
  match slot.gatedOn with
  | some p => p.same interpreter
  | none => false

structure Scheduler where
  options : Options
  availability : Availability
  documents : Keyed DocumentId Slot
  lastToken : Token
  notices : List Notice
  /-- Launches asked for, processes started and scratch directories asked for so far. -/
  attempts : Nat
  processes : Nat
  scratches : Nat
  events : List Event

namespace Scheduler

def new (availability : Availability) (options : Options) : Scheduler :=
  ⟨options, availability, [], 0, [], 0, 0, 0, []⟩

def interpreter (s : Scheduler) : Path := s.options.interpreter

def slot? (s : Scheduler) (id : DocumentId) : Option Slot :=
  Keyed.get? s.documents id

def latestRequest? (s : Scheduler) (id : DocumentId) : Option Snapshot :=
  (s.slot? id).bind (·.request)

def emit (s : Scheduler) (event : Event) : Scheduler :=
  { s with events := s.events ++ [event] }

def notify (s : Scheduler) (notice : Notice) : Scheduler :=
  { s with notices := s.notices ++ [notice] }

def log (s : Scheduler) (level : Log.Level) (message : String)
    (values : List (String × String)) : Scheduler :=
  s.emit (.logged ⟨level, .scheduler, message, values⟩)

def update (s : Scheduler) (id : DocumentId) (f : Slot → Slot) : Scheduler :=
  { s with documents := Keyed.modify s.documents id f }

def takeNotices (s : Scheduler) : Scheduler × List Notice :=
  ({ s with notices := [] }, s.notices)

def takeEvents (s : Scheduler) : Scheduler × List Event :=
  ({ s with events := [] }, s.events)

variable (env : Surroundings)

/-- Starts a process, which gets the next number. -/
def launch (s : Scheduler) (spec : LaunchSpec) (tag : LaunchTag) :
    Scheduler × Except LaunchFault Nat :=
  let asked := { s with attempts := s.attempts + 1 }
  match env.spawn s.attempts spec tag with
  | some cause => (asked.emit (.refused spec tag), .error (.spawn spec.program cause))
  | none =>
    ({ asked with processes := s.processes + 1 }.emit (.launched s.processes spec tag),
      .ok s.processes)

/-- Gives up the active run of a slot and kills its process. -/
def supersede (s : Scheduler) (id : DocumentId) (slot : Slot) : Scheduler × Slot :=
  match slot.active with
  | none => (s, { slot with latest := none })
  | some run =>
    let values := [("document", id), ("token", toString run.token)]
    let s := s.log .debug "superseding running trace" values
    let (run, process) := run.supersede
    let s := match process with
      | none => s
      | some n =>
        let s := s.emit (.killed n)
        match env.kill n with
        | none => s
        | some cause =>
          s.log .warn "superseded tracer could not be killed" (values ++ [("error", cause.message)])
    (s, { slot with active := none, ended := some (run.token, run.state), latest := none })

def gate (s : Scheduler) (id : DocumentId) : Scheduler :=
  s.update id fun slot => { slot with gatedOn := some s.interpreter }

/-- Asks once, until a new verdict, whether the tracer should be installed. -/
def prompt (s : Scheduler) (interpreter : Path) (id : DocumentId) : Scheduler :=
  match s.slot? id with
  | none => s
  | some slot =>
    if slot.prompted then s
    else
      (s.update id fun slot => { slot with prompted := true }).notify
        (.installPrompt id interpreter (installPromptMessage s.options.tracerModule interpreter))

/-- Documents that wait for an interpreter, in order. -/
def waiting (s : Scheduler) (interpreter : Path) : List DocumentId :=
  Keyed.keys (s.documents.filter fun e => e.2.isGatedOn interpreter)

def promptWaiting (s : Scheduler) (interpreter : Path) : Scheduler :=
  (s.waiting interpreter).foldl (fun s id => s.prompt interpreter id) s

/-- A probe that cannot be started counts as a verdict against the interpreter. -/
def startProbe (s : Scheduler) : Scheduler :=
  let interpreter := s.interpreter
  match s.availability.beginProbe? interpreter with
  | none => s
  | some availability =>
    let s := { s with availability }.log .info "probing tracer availability"
      [("interpreter", interpreter)]
    match s.launch env s.options.probeSpec (.probe interpreter) with
    | (s, .ok _) => s
    | (s, .error fault) =>
      let s := s.log .warn "availability probe could not start"
        [("interpreter", interpreter), ("error", fault.message)]
      { s with availability := s.availability.finishProbe interpreter false }.promptWaiting
        interpreter

/-- A refused start makes the verdict doubtful, a failed copy does not. -/
def failLaunch (s : Scheduler) (snapshot : Snapshot) (token : Token) (fault : LaunchFault) :
    Scheduler :=
  let id := snapshot.document
  let s := s.log .warn "tracer could not be started"
    [("document", id), ("error", fault.message)]
  let s := match fault with
    | .spawn .. => { s with availability := s.availability.invalidate s.interpreter }
    | .sourceCopy .. => s
  (s.update id fun slot => { slot with gatedOn := none }).notify
    (.delivered id token
      ⟨.infrastructure, launchFailureMessage fault, snapshot.text, s.interpreter⟩)

/-- Starts the tracer under a fresh token. -/
def startRun (s : Scheduler) (snapshot : Snapshot) : Scheduler × Decision :=
  let id := snapshot.document
  let token := s.lastToken + 1
  let prepared := prepare env s.options snapshot ((s.slot? id).bind (·.scratch)) s.scratches
  let s := { s with
    lastToken := token
    scratches := prepared.asked
    events := s.events ++ prepared.events }
  let s := s.update id fun slot => { slot with scratch := prepared.scratch }
  let (s, started) : Scheduler × Except LaunchFault Nat := match prepared.spec with
    | .error fault => (s, .error fault)
    | .ok spec => s.launch env spec (.trace id token)
  match started with
  | .error fault => (s.failLaunch snapshot token fault, .notRun .launchFailed)
  | .ok process =>
    let run := (TraceRun.new token s.interpreter snapshot.text).start process
    let s := s.update id fun slot =>
      { slot with gatedOn := none, latest := some token, active := some run }
    let s := s.log .info "trace run started" [("document", id), ("token", toString token)]
    (s.notify (.runStarted id token), .launched token)

/-- Runs what the document last asked for, as far as the tracer is known to be there. -/
def launchLatest (s : Scheduler) (id : DocumentId) : Scheduler × Decision :=
  match s.slot? id with
  | none => (s, .notRun .noRequest)
  | some slot =>
    let (s, slot) := s.supersede env id slot
    let s := s.update id fun _ => slot
    match slot.request with
    | none => (s, .notRun .noRequest)
    | some snapshot =>
      match s.availability.status s.interpreter with
      | .available => s.startRun env snapshot
      | .unavailable => ((s.gate id).prompt s.interpreter id, .notRun .unavailable)
      | .probing => (s.gate id, .awaitingAvailability)
      | .unknown =>
        let s := (s.gate id).startProbe env
        match s.availability.status s.interpreter with
        | .unavailable => (s, .notRun .unavailable)
        | _ => (s, .awaitingAvailability)

def launchEach (s : Scheduler) : List DocumentId → Scheduler × List (DocumentId × Decision)
  | [] => (s, [])
  | id :: rest =>
    let (s, decision) := (s.update id fun slot => { slot with due := none }).launchLatest env id
    let (s, decisions) := launchEach s rest
    (s, (id, decision) :: decisions)

/-- Settles the documents that wait for an interpreter whose verdict has come. -/
def resolveGated (s : Scheduler) (interpreter : Path) : Scheduler :=
  match s.availability.status interpreter with
  | .available => (s.waiting interpreter).foldl (fun s id => (s.launchLatest env id).1) s
  | .unavailable => s.promptWaiting interpreter
  | .unknown | .probing => s

/-- After a new verdict waiting documents may be asked again. -/
def allowPrompts (s : Scheduler) (interpreter : Path) : Scheduler :=
  { s with documents := Keyed.mapValues (fun _ slot =>
      if slot.isGatedOn interpreter then { slot with prompted := false } else slot) s.documents }

/-- An edit waits for the debounce delay; anything else runs at once. -/
def requestRun (s : Scheduler) (snapshot : Snapshot) (trigger : Trigger) (now : Nat) :
    Scheduler × Decision :=
  let id := snapshot.document
  let slot := { (s.slot? id).getD .empty with request := some snapshot }
  match trigger with
  | .change =>
    let due := now + s.options.debounce
    let s := { s with documents := Keyed.insert s.documents id { slot with due := some due } }
    (s.log .debug "debounce timer reset" [("document", id)], .debounced due)
  | .save | .explicit =>
    { s with documents := Keyed.insert s.documents id { slot with due := none } }.launchLatest
      env id

def reissue (s : Scheduler) (id : DocumentId) : Scheduler × Decision :=
  (s.update id fun slot => { slot with due := none }).launchLatest env id

def nextDeadline? (s : Scheduler) : Option Nat :=
  (s.documents.filterMap fun e => e.2.due).min?

/-- Documents whose deadline has come, in order. -/
def expired (s : Scheduler) (now : Nat) : List DocumentId :=
  Keyed.keys (s.documents.filter fun e => e.2.due.any (· ≤ now))

def fireDue (s : Scheduler) (now : Nat) : Scheduler × List (DocumentId × Decision) :=
  s.launchEach env (s.expired now)

/-- Only the result of the run that is latest counts. -/
def finishTrace (s : Scheduler) (id : DocumentId) (token : Token) (outcome : Outcome) :
    Scheduler :=
  let values := [("document", id), ("token", toString token)]
  match s.slot? id with
  | none => s.log .debug "result for closed document discarded" values
  | some slot =>
    if slot.latest ≠ some token then s.log .debug "stale result discarded" values
    else
      match slot.active with
      | none => s.update id fun slot => { slot with latest := none }
      | some run =>
        let run := run.finish outcome.success
        let s := s.update id fun slot =>
          { slot with latest := none, active := none, ended := some (run.token, run.state) }
        let (kind, text) := classify outcome
        let s :=
          if kind = .userError ∧ indicatesMissing text s.options.tracerModule then
            { s with availability := s.availability.invalidate run.interpreter }
          else s
        let s :=
          if kind = .infrastructure then s.log .warn text [("document", id)]
          else s.log .info "trace run finished" (values ++ [("kind", kind.name)])
        s.notify (.delivered id token ⟨kind, text, run.source, run.interpreter⟩)

def finishProbe (s : Scheduler) (interpreter : Path) (outcome : Outcome) : Scheduler :=
  let importable := outcome.success
  let s := s.log .info "availability probe finished"
    [("interpreter", interpreter), ("importable", toString importable)]
  let s := { s with availability := s.availability.finishProbe interpreter importable }
  (s.allowPrompts interpreter).resolveGated env interpreter

def finishInstall (s : Scheduler) (interpreter : Path) (id : DocumentId) (outcome : Outcome) :
    Scheduler :=
  let success := outcome.success
  let s := { s with availability := s.availability.finishInstall interpreter success }
  let s :=
    if success then s.log .info "tracer installed" [("interpreter", interpreter)]
    else s.log .warn "tracer installation failed" [("interpreter", interpreter)]
  let s := s.notify (.installFinished id interpreter success outcome.combined)
  if success then (s.allowPrompts interpreter).resolveGated env interpreter else s

def complete (s : Scheduler) (completion : Completion) : Scheduler :=
  match completion.tag with
  | .trace id token => s.finishTrace id token completion.outcome
  | .probe interpreter => s.finishProbe env interpreter completion.outcome
  | .install interpreter id => s.finishInstall env interpreter id completion.outcome

/-- A document that has asked for a run waits for the install. -/
def requestInstall (s : Scheduler) (id : DocumentId) : Scheduler × Option InstallFault :=
  let interpreter := s.interpreter
  match s.availability.beginInstall? interpreter with
  | none => (s, some (.alreadyInProgress interpreter))
  | some availability =>
    let s := { s with availability }.update id fun slot =>
      if slot.request.isSome then { slot with gatedOn := some interpreter } else slot
    let s := s.log .info "installing tracer" [("interpreter", interpreter)]
    match s.launch env s.options.installSpec (.install interpreter id) with
    | (s, .ok _) => (s, none)
    | (s, .error fault) =>
      ({ s with availability := s.availability.finishInstall interpreter false },
        some (.launch fault))

/-- Forgets a document, kills its run and removes its scratch directory. -/
def close (s : Scheduler) (id : DocumentId) : Scheduler :=
  match s.slot? id with
  | none => s
  | some slot =>
    let (s, slot) := s.supersede env id slot
    let s := s.log .debug "document closed" [("document", id)]
    let s := { s with documents := Keyed.erase s.documents id }
    match slot.scratch with
    | none => s
    | some dir => s.emit (.scratchRemoved dir)

def phase (s : Scheduler) (id : DocumentId) : Phase :=
  match s.slot? id with
  | none => .idle
  | some slot =>
    match slot.active, slot.due, slot.gatedOn with
    | some run, _, _ => .running run.token
    | none, some due, _ => .pendingDebounce due
    | none, none, some _ => .awaitingAvailability
    | none, none, none => .idle

def runState? (s : Scheduler) (id : DocumentId) (token : Token) : Option RunState := do
  let slot ← s.slot? id
  match slot.active.filter (·.token = token), slot.ended.filter (·.1 = token) with
  | some run, _ => some run.state
  | none, some ended => some ended.2
  | none, none => none

end Scheduler

end TraceView.Run
