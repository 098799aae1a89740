import TraceView.Editor.Diagnosis
import TraceView.Editor.Server
import TraceView.Machine.Journal

/-!
# The host

Serves one editor on a machine. What the editor sends is read as soon as it is complete; between
that the host waits for the next deadline or the end of a process, whichever comes first. It ends
when the editor says goodbye or closes its end. The machine has room for every buffer.
-/

namespace TraceView.Editor

open TraceView.Machine (Journal Transcript)
open TraceView.Run

/-- A process started by the scheduler. -/
structure Child where
  process : Nat
  tag : LaunchTag
  transcript : Transcript
  start : Nat
  /-- Milliseconds after its start, if it was killed. -/
  killed : Option Nat

namespace Child

def pid (c : Child) : Nat := Machine.firstNumber + c.process

def finish (c : Child) : Nat := c.start + c.killed.getD c.transcript.lifetime

/-- When the host learns of the end. -/
def noticed (c : Child) : Nat := c.start + Machine.noticed (c.finish - c.start)

def completion (c : Child) : Completion := ⟨c.tag, c.transcript.outcome c.killed⟩

end Child

structure Host where
  machine : Machine
  journal : Journal
  clock : Nat
  server : Server
  /-- What was received and not read. -/
  input : List UInt8
  /-- In the order of their starts. -/
  children : List Child
  serving : Bool

namespace Host

def record (h : Host) (level : Log.Level) (origin : Log.Origin) (message : String)
    (values : List (String × String)) : Host :=
  { h with machine := h.machine.record h.journal ⟨level, origin, message, values⟩ }

def scratchDir (m : Machine) (n : Nat) : Except LaunchFault Path :=
  match m.tree.makeFault m.cwd m.tempDir with
  | some cause => .error (noScratch m.tempDir cause)
  | none => .ok (Path.join m.tempDir ("live_trace_" ++ String.ofList (Text.hexPadded 6 n)))

/-- What a machine answers; writing to the editor never fails here. -/
def siteOf (m : Machine) : Site where
  spawn _ spec _ := match m.resolve spec with
    | .ok _ => none
    | .error fault => some fault
  kill _ := none
  scratch := scratchDir m
  write := writeFault
  flush _ := none
  token := Page.numberedToken

def site (h : Host) : Site := siteOf h.machine

/-- What an event does to files. -/
def replay (m : Machine) : Event → Machine
  | .scratchMade dir => { m with tree := m.tree.addDirectory dir }
  | .copyWritten dir name text =>
    { m with tree := m.tree.addFile (Path.join dir name) (Text.Utf8.encode text.toList) }
  | .scratchRemoved dir => { m with tree := m.tree.removeDirectory dir }
  | .launched .. | .refused .. | .killed _ | .logged _ => m

def addChild (h : Host) (process : Nat) (spec : LaunchSpec) (tag : LaunchTag) : Host :=
  match h.machine.run spec with
  | .error _ => h
  | .ok transcript =>
    let child : Child := ⟨process, tag, transcript, h.clock, none⟩
    { h with
      machine := { h.machine with tree := transcript.tree }
      children := h.children ++ [child] }.record .debug .launcher "process started"
        [("program", spec.program), ("pid", toString child.pid)]

def isRunning (h : Host) (c : Child) : Bool := h.clock < c.finish

def killAt (clock process : Nat) (c : Child) : Child :=
  if c.process = process then { c with killed := some (clock - c.start) } else c

/-- A process that has ended is left alone. -/
def killChild (h : Host) (process : Nat) : Host :=
  match h.children.find? (·.process = process) with
  | none => h
  | some child =>
    if h.isRunning child then
      { h with children := h.children.map (killAt h.clock process) }.record .debug .launcher
        "process killed" [("pid", toString child.pid)]
    else h

/-- Does to the machine what the scheduler says it did. -/
def apply (h : Host) : Event → Host
  | .launched process spec tag => h.addChild process spec tag
  | .killed process => h.killChild process
  | .logged line => { h with machine := h.machine.record h.journal line }
  | e => { h with machine := replay h.machine e }

def start (machine : Machine) (journal : Journal) (options : Options) (settings : Settings) :
    Host :=
  ({ machine, journal, clock := 0, server := .new (.new [] options) settings, input := [],
     children := [], serving := true } : Host).record .info .hostLoop "host mode starting"
    [("interpreter", options.interpreter)]

def stop (h : Host) : Host :=
  if h.serving then { h with serving := false }.record .info .hostLoop "host mode exiting" []
  else h

/-- A move of the server, with its effects on the machine. -/
def move {α : Type} (h : Host) (m : Server.Move Fault α) : Host × Except Fault α :=
  let (answer, server) := m.run h.server
  let (scheduler, events) := server.scheduler.takeEvents
  (events.foldl apply { h with server := { server with scheduler } }, answer)

def handle (h : Host) (m : Message) : Host :=
  match h.move (Server.handleMessage h.site m h.clock) with
  | (h, .ok true) => h
  | (h, _) => h.stop

/-- What a reading of the input leads to. -/
def react (h : Host) : Frame.Reading → Host
  | .message m => h.handle m
  | .flawed _ body =>
    h.record .warn .hostLoop "dropping malformed message"
      [("error", (Diagnosis.ofBody body).text body)]
  | .noLength => h.record .warn .hostLoop "dropping message without Content-Length" []
  | .broken fault =>
    (h.record .warn .hostLoop "host transport failed" [("error", Frame.transportText fault)]).stop
  | .finished => h.stop
  -- The host is not told that its reader is gone, and goes on without one.
  | .crashed => h

/-- Reads what is complete, or all if the editor has closed its end; `fuel` bounds the number of
readings. -/
def readOn (closed : Bool) : Nat → Host → Host
  | 0, h => h
  | fuel + 1, h =>
    if h.serving && (closed || Frame.settled .most h.input) then
      let (reading, rest) := Frame.read .most h.input
      let h := { h with input := rest }.react reading
      if reading.goesOn then readOn closed fuel h else h
    else h

/-- Every reading takes a byte. -/
def receive (h : Host) (bytes : List UInt8) : Host :=
  let h := { h with input := h.input ++ bytes }
  readOn false (h.input.length + 1) h

/-- The editor closes its end. -/
def close (h : Host) : Host :=
  readOn true (h.input.length + 1) h

inductive Happening where
  | deadline
  | ended (c : Child)

def firstNoticed : List Child → Option Child
  | [] => none
  | c :: rest =>
    match firstNoticed rest with
    | none => some c
    | some d => if c.noticed ≤ d.noticed then some c else some d

/-- What comes next, and when; nothing if the host would wait for the editor only. -/
def next? (h : Host) : Option (Nat × Happening) :=
  if !h.serving then none
  else
    match h.server.scheduler.nextDeadline?, firstNoticed h.children with
    | none, none => none
    | some due, none => some (due, .deadline)
    | none, some c => some (c.noticed, .ended c)
    | some due, some c =>
      if due ≤ c.noticed then some (due, .deadline) else some (c.noticed, .ended c)

def happen (h : Host) : Happening → Host
  | .deadline => (h.move (Server.tick h.site h.clock)).1
  | .ended c =>
    let h := { h with children := h.children.filter (·.process ≠ c.process) }
    (h.move (Server.complete h.site c.completion)).1

/-- Waits for what comes next, at most until `limit`; none if nothing comes by then. -/
def advance? (h : Host) (limit : Nat) : Option Host :=
  match h.next? with
  | none => none
  | some (time, what) =>
    if limit < time then none else some ({ h with clock := max h.clock time }.happen what)

def takeSent (h : Host) : Host × List Message :=
  let (server, sent) := h.server.takeSent
  ({ h with server }, sent)

end Host

end TraceView.Editor
