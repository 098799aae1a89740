import TraceView.Editor.Server
import TraceView.Proofs.Run.Turn

/-!
# Calls of the server

A run of the server is a list of calls: a message of the editor, the end of a process or a tick.
Each call brings its own site, so any launch may be refused and every page may get any token. What a
call asks of the scheduler is one turn at most, and the notices of that turn are what it tells the
editor.
-/
namespace TraceView.Proofs.Editor

open TraceView TraceView.Editor TraceView.Run TraceView.Proofs.Run

inductive Input where
  | message (m : Message)
  | ended (completion : Completion)
  | tick

structure Call where
  site : Site
  now : Nat
  input : Input

/-- The arguments by which a request names a document. -/
def named? (arguments : Option Json) : Option DocumentArgs :=
  (DocumentArgs.read (arguments.getD .null)).toOption

/-- What a document is run with: the text given or else the one last known. -/
def snapshot? (s : Server) (args : DocumentArgs) : Option Snapshot :=
  match args.text with
  | some text => some ⟨args.document, text, args.path⟩
  | none => s.scheduler.latestRequest? args.document

def runAsked? (s : Server) (arguments : Option Json) (trigger : Trigger) : Option Move := do
  let args ← named? arguments
  let snapshot ← snapshot? s args
  return .request snapshot trigger

/-- What a request asks of the scheduler, if it asks anything. -/
def asked? (s : Server) (command : String) (arguments : Option Json) : Option Move :=
  match command with
  | "open" => do
    let args ← named? arguments
    let text ← args.text
    if s.settings.skipLandingPage then some (.request ⟨args.document, text, args.path⟩ .explicit)
    else none
  | "change" =>
    if s.settings.whenToExecute = .onSave then none else runAsked? s arguments .change
  | "save" => runAsked? s arguments .save
  | "execute" => runAsked? s arguments .explicit
  | "close" => (named? arguments).map fun args => .close args.document
  | "install" => (named? arguments).map fun args => .install args.document
  | _ => none

/-- The document that a request closes. -/
def closed? (command : String) (arguments : Option Json) : Option DocumentId :=
  if command = "close" then (named? arguments).map (·.document) else none

/-- The document that a request scrolls. -/
def scrolled? (command : String) (arguments : Option Json) : Option DocumentId :=
  if command = "visibleRange" then
    (VisibleRangeArgs.read (arguments.getD .null)).toOption.map (·.document)
  else none

/-- The document that a request names, whatever it asks. -/
def document? (command : String) (arguments : Option Json) : Option DocumentId :=
  match command with
  | "open" | "change" | "save" | "execute" | "close" | "install" =>
    (named? arguments).map (·.document)
  | "visibleRange" => scrolled? command arguments
  | "variables" => (VariablesArgs.read (arguments.getD .null)).toOption.map (·.document)
  | _ => none

/-- The line that is logged for a request before anything is done about it. -/
def requestLine (seq : Nat) (command : String) : Log.Line :=
  ⟨.debug, .server, "request", [("command", command), ("seq", toString seq)]⟩

namespace Call

def move (c : Call) : Server.Move Fault Bool :=
  match c.input with
  | .message m => Server.handleMessage c.site m c.now
  | .ended completion => do
    Server.complete c.site completion
    return true
  | .tick => do
    Server.tick c.site c.now
    return true

def run (c : Call) (s : Server) : Except Fault Bool × Server :=
  c.move.run s

def apply (c : Call) (s : Server) : Server := (c.run s).2

/-- Whatever is written during the call reaches the editor. -/
def Unbroken (c : Call) : Prop := ∀ n, c.site.flush n = none

/-- The request of a call: its number, its command and its arguments. -/
def request? (c : Call) : Option (Nat × String × Option Json) :=
  match c.input with
  | .message ⟨seq, _, .request command arguments⟩ => some (seq, command, arguments)
  | _ => none

def closes (c : Call) (d : DocumentId) : Bool :=
  (c.request?.bind fun r => closed? r.2.1 r.2.2) = some d

def scrolls (c : Call) (d : DocumentId) : Bool :=
  (c.request?.bind fun r => scrolled? r.2.1 r.2.2) = some d

section Requests

variable {c : Call} {seq : Nat} {command : String} {arguments : Option Json} (d : DocumentId)

theorem closes_request (h : c.request? = some (seq, command, arguments)) :
    c.closes d = decide (closed? command arguments = some d) := by
  rw [closes, h]
  rfl

theorem closes_none (h : c.request? = none) : c.closes d = false := by
  rw [closes, h]
  rfl

theorem scrolls_request (h : c.request? = some (seq, command, arguments)) :
    c.scrolls d = decide (scrolled? command arguments = some d) := by
  rw [scrolls, h]
  rfl

end Requests

/-- The scheduler as the call finds it, but for the line that is logged for a request. -/
def found (c : Call) (s : Server) : Scheduler :=
  match c.request? with
  | some (seq, command, _) => s.scheduler.emit (.logged (requestLine seq command))
  | none => s.scheduler

/-- What the call moves the scheduler by. -/
def turn? (c : Call) (s : Server) : Option Turn :=
  match c.input with
  | .message _ =>
    (c.request?.bind fun r => asked? s r.2.1 r.2.2).map fun m => ⟨c.site.toSurroundings, c.now, m⟩
  | .ended completion => some ⟨c.site.toSurroundings, c.now, .complete completion⟩
  | .tick => some ⟨c.site.toSurroundings, c.now, .tick⟩

/-- The notices that come of the call. -/
def told (c : Call) (s : Server) : List Notice :=
  match c.turn? s with
  | some t => t.told (c.found s)
  | none => []

end Call

def serve (s : Server) (calls : List Call) : Server :=
  calls.foldl (fun s c => c.apply s) s

/-- The server before its first call. -/
def fresh (availability : Availability) (options : Options) (settings : Settings) : Server :=
  .new (.new availability options) settings

@[simp] theorem serve_nil (s : Server) : serve s [] = s := rfl

@[simp] theorem serve_cons (s : Server) (c : Call) (calls : List Call) :
    serve s (c :: calls) = serve (c.apply s) calls := rfl

end TraceView.Proofs.Editor
