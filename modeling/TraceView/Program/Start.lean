import TraceView.Editor.Host
import TraceView.Interpreter
import TraceView.Program.Arguments
import TraceView.Program.Failure
import TraceView.Settings.Load

/-!
# Starting the program

The command line decides whether the program answers at once or serves an editor. The log is opened
before the settings are read, and the settings are read before anything else.
-/

namespace TraceView.Program

open TraceView.Editor (Host)
open TraceView.Machine (Journal)

/-- How a program ended, with the machine as it left it. -/
structure Ending where
  code : Nat
  stdout : String
  failure : Option Failure
  machine : Machine

def Ending.success (m : Machine) (stdout : String) : Ending := ⟨0, stdout, none, m⟩

def Ending.failed (m : Machine) (stdout : String) (failure : Failure) : Ending :=
  ⟨1, stdout, some failure, m⟩

inductive Started where
  | ended (e : Ending)
  | serving (h : Host)

def versionText : String := "live-trace 0.1.0\n"

def helpText : String :=
  "Live Python execution traces for editors\n\n" ++
    "Usage: live-trace [--config F] [--log-file F] [--python P] [--workspace D] " ++
    "[host | render SOURCE --trace FILE]\n"

def Refusal.ending (m : Machine) : Refusal → Ending
  | .help => .success m helpText
  | .version => .success m versionText
  | .usage => ⟨2, "", none, m⟩

/-- The fault of the settings and what is behind it. -/
def settingsFailure (e : Settings.SettingsFault) : Failure := ⟨e.message, e.cause?.toList⟩

def Failure.within (f : Failure) (context : String) : Failure :=
  ⟨context, f.message :: f.causes⟩

def loadSettings (m : Machine) (explicit : Option Path) :
    Except Settings.SettingsFault Settings :=
  Settings.load m.tree m.cwd (Settings.configDir? m.env?) explicit

/-- What the command line says goes before what the file says. -/
def override (s : Settings) (g : Globals) : Settings :=
  { s with
    pythonPath := g.python.or s.pythonPath
    workspaceRoot := g.workspace.or s.workspaceRoot }

/-- The interpreter; that one was found is worth a log line. -/
def chooseInterpreter (m : Machine) (journal : Journal) (s : Settings) : Machine × Path :=
  match Interpreter.found? m.env? s.pythonPath m.isUsable with
  | some p => (m.record journal
      ⟨.debug, .interpreter, "interpreter resolved", [("interpreter", p)]⟩, p)
  | none => (m, Interpreter.fallback)

def serve (m : Machine) (journal : Journal) (s : Settings) : Started :=
  let (m, interpreter) := chooseInterpreter m journal s
  match s.runOptions interpreter with
  | .error e => .ended (.failed m "" ((settingsFailure e).within "invalid tracer settings"))
  | .ok options => .serving (.start m journal options s)

def readText (m : Machine) (p : Path) : Except Failure String :=
  (m.tree.readText m.cwd p).mapError (.ofFault ("reading " ++ p))

/-- The page of a source and its saved trace. -/
def render (m : Machine) (s : Settings) (source trace : Path) : Ending :=
  match do return (← readText m source, ← readText m trace) with
  | .error failure => .failed m "" failure
  | .ok (sourceText, traceText) =>
    let panel := Page.Panel.ofTrace sourceText traceText (s.pythonPath.getD "")
    let page := (Page.Preview.ofPanel panel).page s.displayFlags (Page.numberedToken 1)
    .success m (page ++ "\n")

def start (m : Machine) (args : List String) : Started :=
  match Invocation.read args with
  | .error refusal => .ended (refusal.ending m)
  | .ok i =>
    match m.openJournal i.globals.logFile with
    | .error fault =>
      .ended (.failed m "" (.ofFault ("opening log file " ++ i.globals.logFile.getD "") fault))
    | .ok (m, journal) =>
      match loadSettings m i.globals.config with
      | .error e => .ended (.failed m "" ((settingsFailure e).within "loading settings"))
      | .ok s =>
        let s := override s i.globals
        match i.task with
        | .host => serve m journal s
        | .render source trace => .ended (render m s source trace)

/-- What is left of a host when the editor has gone. -/
def hostEnding (h : Host) : Ending := .success h.machine ""

end TraceView.Program
