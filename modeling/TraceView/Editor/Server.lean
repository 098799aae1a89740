import TraceView.Editor.Arguments
import TraceView.Editor.Frame
import TraceView.Editor.Summary
import TraceView.Page.Panel
import TraceView.Run.Scheduler
import TraceView.Settings.Basic

/-!
# The server

Answers the requests of an editor, keeps a preview per document and turns the scheduler's notices
into events. A move ends at the first message that cannot be written; what was done until then
stays done.
-/

namespace TraceView.Editor

open TraceView.Html (DisplayFlags Toggle)
open TraceView.Page (Panel Preview)
open TraceView.Run

/-- What the server asks of the world, besides what the scheduler asks. -/
structure Site extends Surroundings where
  /-- Why the message of that number cannot be written, if it cannot. -/
  flush : Nat → Option Fault
  /-- The token of the page of that number. -/
  token : Nat → String

structure Server where
  /-- Number of the last message. It stands for a word of 64 bits, as `2 ^ 64` messages are never
  reached. -/
  seq : Nat
  /-- Number of pages rendered. -/
  pages : Nat
  sent : List Message
  scheduler : Scheduler
  flags : DisplayFlags
  settings : Settings
  previews : Keyed DocumentId Preview

namespace Server

def new (scheduler : Scheduler) (settings : Settings) : Server :=
  ⟨0, 0, [], scheduler, settings.displayFlags, settings, []⟩

/-- A move that may end early keeps the state it reached. -/
abbrev Move (ε α : Type) := ExceptT ε (StateM Server) α

def running : String := "Running tracer..."

variable (site : Site)

/-- The message counts as sent even if writing it fails at the end. -/
def send (kind : String) (content : Content) : Move Fault Unit := do
  let s ← get
  let seq := s.seq + 1
  set { s with seq, sent := s.sent ++ [Message.mk seq kind content] }
  match site.flush seq with
  | some fault => throw fault
  | none => return ()

def respond (requestSeq : Nat) (command : String) (success : Bool) (message : Option String)
    (body : Option Json) : Move Fault Unit :=
  send site "response" (.response requestSeq success command message body)

def sendEvent (name : String) (body : List (String × Json)) : Move Fault Unit :=
  send site "event" (.event name (some (.ofFields body)))

/-- A move of the scheduler. -/
def schedule {ε α : Type} (f : Scheduler → Scheduler × α) : Move ε α := do
  let s ← get
  let (scheduler, a) := f s.scheduler
  set { s with scheduler }
  return a

def log {ε : Type} (level : Log.Level) (message : String) (values : List (String × String)) :
    Move ε Unit :=
  schedule fun s => (s.emit (.logged ⟨level, .server, message, values⟩), ())

def setPreview {ε : Type} (id : DocumentId) (p : Preview) : Move ε Unit :=
  modify fun s => { s with previews := Keyed.insert s.previews id p }

def preview? {ε : Type} (id : DocumentId) : Move ε (Option Preview) := do
  return Keyed.get? (← get).previews id

/-- Renders the preview of a document, if it has one, under a fresh token. -/
def render (id : DocumentId) : Move Fault Unit := do
  match ← preview? id with
  | none => return ()
  | some p =>
    let s ← get
    set { s with pages := s.pages + 1 }
    let html := p.page s.flags (site.token s.pages)
    sendEvent site "render" [("document", .string id), ("html", .string html)]

def renderEach : List DocumentId → Move Fault Unit
  | [] => return ()
  | id :: rest => do
    render site id
    renderEach rest

def showPanel (id : DocumentId) (panel : Panel) : Move Fault Unit := do
  let p := (← preview? id).getD (.ofPanel .landing)
  setPreview id { p with panel }
  render site id

def kindText : DeliveryKind → String
  | .output => "output"
  | .userError => "userError"
  | .infrastructure => "infrastructure"

/-- An infrastructure fault is summed up by its first line. -/
def statusText (d : Delivery) : String :=
  match d.kind with
  | .infrastructure => (Text.lines d.text).headD ""
  | .userError => "Tracer finished with errors"
  | .output => "Tracer finished"

def deliveryPanel (d : Delivery) : Panel :=
  match d.kind with
  | .infrastructure => .failure d.text d.interpreter
  | .output | .userError => .ofTrace d.source d.text d.interpreter

def deliver (id : DocumentId) (d : Delivery) : Move Fault Unit := do
  showPanel site id (deliveryPanel d)
  sendEvent site "status" [("document", .string id), ("running", .bool false),
    ("kind", .string (kindText d.kind)), ("text", .string (statusText d))]

def handleNotice : Notice → Move Fault Unit
  | .runStarted id token =>
    sendEvent site "status" [("document", .string id), ("running", .bool true),
      ("token", .nat token), ("text", .string running)]
  | .delivered id _ d => deliver site id d
  | .installPrompt id interpreter message => do
    showPanel site id (.installPrompt message)
    sendEvent site "installPrompt" [("document", .string id), ("interpreter", .string interpreter),
      ("message", .string message)]
  | .installFinished id interpreter success output =>
    sendEvent site "installResult" [("document", .string id), ("interpreter", .string interpreter),
      ("success", .bool success), ("output", .string output)]

def handleNotices : List Notice → Move Fault Unit
  | [] => return ()
  | n :: rest => do
    handleNotice site n
    handleNotices rest

/-- Notices taken when writing fails are lost. -/
def flushNotices : Move Fault Unit := do
  handleNotices site (← schedule Scheduler.takeNotices)

/-- A handler answers with the body of the response, or with what is wrong. -/
abbrev Handler := Move String (Option Json)

def parse {α : Type} (read : Json → Parsed α) (arguments : Option Json) : Move String α :=
  match read (arguments.getD .null) with
  | .ok a => return a
  | .error fault => throw fault.message

/-- Within a handler a failed write is an answer. -/
def writing (m : Move Fault Unit) : Move String Unit :=
  m.adapt Frame.transportText

def decisionBody : Decision → Json
  | .launched token => .ofFields [("decision", .string "launched"), ("token", .nat token)]
  | .debounced _ => .ofFields [("decision", .string "debounced")]
  | .awaitingAvailability => .ofFields [("decision", .string "awaitingAvailability")]
  | .notRun reason => .ofFields [("decision", .string "notRun"), ("reason", .string reason.name)]

/-- Without a text the one last known counts. -/
def snapshot (args : DocumentArgs) : Move String Snapshot := do
  match args.text with
  | some text => return ⟨args.document, text, args.path⟩
  | none =>
    match (← get).scheduler.latestRequest? args.document with
    | some snapshot => return snapshot
    | none => throw ("no text known for " ++ args.document)

def handleOpen (arguments : Option Json) (now : Nat) : Handler := do
  let args ← parse DocumentArgs.read arguments
  if (← preview? args.document).isNone then
    setPreview args.document (.ofPanel .landing)
  if (← get).settings.skipLandingPage && args.text.isSome then
    let snapshot ← snapshot args
    let _ ← schedule fun s => s.requestRun site.toSurroundings snapshot .explicit now
  else
    writing (render site args.document)
  return none

def run (arguments : Option Json) (trigger : Trigger) (now : Nat) : Handler := do
  let args ← parse DocumentArgs.read arguments
  let snapshot ← snapshot args
  let decision ← schedule fun s => s.requestRun site.toSurroundings snapshot trigger now
  return some (decisionBody decision)

/-- Edits do not count when only saving runs the tracer. -/
def handleChange (arguments : Option Json) (now : Nat) : Handler := do
  if (← get).settings.whenToExecute = .onSave then
    return some (.ofFields [("decision", .string "ignored")])
  run site arguments .change now

def handleClose (arguments : Option Json) : Handler := do
  let args ← parse DocumentArgs.read arguments
  schedule fun s => (s.close site.toSurroundings args.document, ())
  modify fun s => { s with previews := Keyed.erase s.previews args.document }
  return none

def setToggle (flags : DisplayFlags) (toggle : Toggle) (value : Bool) : DisplayFlags :=
  match toggle with
  | .source => { flags with showSource := value }
  | .debug => { flags with showDebug := value }

def handleToggle (toggle : Toggle) (arguments : Option Json) : Handler := do
  let args ← parse ToggleArgs.read arguments
  modify fun s => { s with flags := setToggle s.flags toggle args.value }
  writing (renderEach site (Keyed.keys (← get).previews))
  return none

def handleInstall (arguments : Option Json) : Handler := do
  let args ← parse DocumentArgs.read arguments
  match ← schedule fun s => s.requestInstall site.toSurroundings args.document with
  | some fault => throw fault.message
  | none => return none

def handleVisibleRange (arguments : Option Json) : Handler := do
  let args ← parse VisibleRangeArgs.read arguments
  if let some p ← preview? args.document then
    setPreview args.document { p with scrollLine := args.line }
  writing (sendEvent site "scroll" [("document", .string args.document), ("line", .nat args.line)])
  return none

def handleVariables (arguments : Option Json) : Handler := do
  let args ← parse VariablesArgs.read arguments
  let text := (((← get).scheduler.latestRequest? args.document).map (·.text)).getD ""
  let placement := Binding.Placement.place text args.values
  if let some p ← preview? args.document then
    setPreview args.document { p with placed := some placement }
    writing (render site args.document)
  return some placement.toJson

def handleUnknown (command : String) : Handler := do
  log .warn "unhandled host command" [("command", command)]
  throw ("unknown command `" ++ command ++ "`")

def handler (command : String) (arguments : Option Json) (now : Nat) : Handler :=
  match command with
  | "open" => handleOpen site arguments now
  | "change" => handleChange site arguments now
  | "save" => run site arguments .save now
  | "execute" => run site arguments .explicit now
  | "close" => handleClose site arguments
  | "toggleSource" => handleToggle site .source arguments
  | "toggleDebug" => handleToggle site .debug arguments
  | "install" => handleInstall site arguments
  | "visibleRange" => handleVisibleRange site arguments
  | "variables" => handleVariables site arguments
  | command => handleUnknown command

/-- Runs a handler; what it answers is never a fault of the move. -/
def attempt (h : Handler) : Move Fault (Except String (Option Json)) :=
  fun s => let (answer, s) := h.run s; (.ok answer, s)

def respondTo (seq : Nat) (command : String) (answer : Except String (Option Json)) :
    Move Fault Unit :=
  match answer with
  | .ok body => respond site seq command true none body
  | .error message => respond site seq command false (some message) none

/-- False if the editor has said goodbye. -/
def handleMessage (m : Message) (now : Nat) : Move Fault Bool := do
  match m.content with
  | .request command arguments =>
    log .debug "request" [("command", command), ("seq", toString m.seq)]
    if command = "disconnect" then
      respond site m.seq command true none none
      return false
    let answer ← attempt (handler site command arguments now)
    respondTo site m.seq command answer
    flushNotices site
    return true
  | other =>
    log .debug "ignoring non-request message" [("other", other.summary)]
    return true

def complete (completion : Completion) : Move Fault Unit := do
  schedule fun s => (s.complete site.toSurroundings completion, ())
  flushNotices site

def tick (now : Nat) : Move Fault Unit := do
  schedule fun s => ((s.fireDue site.toSurroundings now).1, ())
  flushNotices site

def takeSent (s : Server) : Server × List Message :=
  ({ s with sent := [] }, s.sent)

end Server

end TraceView.Editor
