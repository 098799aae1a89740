import TraceView.Fault
import TraceView.Html.Piece
import TraceView.Run.Options
import TraceView.Settings.Words

/-!
# Settings

What the user may set, and the options of the scheduler that follow from it.
-/

namespace TraceView

open TraceView.Html (DisplayFlags)

inductive Settings.WhenToExecute where
  | afterDelay
  | onSave
  deriving DecidableEq, Repr

/-- How the tracer gets the source. -/
inductive Settings.SourceDelivery where
  | stdinAndFile
  | stdin
  deriving DecidableEq, Repr

structure Settings where
  whenToExecute : Settings.WhenToExecute
  delay : Nat
  pythonPath : Option Path
  tracerModule : String
  tracerArgs : String
  sourceDelivery : Settings.SourceDelivery
  installArgs : String
  showSource : Bool
  showDebug : Bool
  workspaceRoot : Option Path
  skipLandingPage : Bool
  deriving DecidableEq, Repr

namespace Settings

def WhenToExecute.name : WhenToExecute → String
  | .afterDelay => "after_delay"
  | .onSave => "on_save"

def SourceDelivery.name : SourceDelivery → String
  | .stdinAndFile => "stdin_and_file"
  | .stdin => "stdin"

def default : Settings where
  whenToExecute := .afterDelay
  delay := 300
  pythonPath := none
  tracerModule := "space_tracer"
  tracerArgs := "-m space_tracer " ++ Run.filePlaceholder
  sourceDelivery := .stdinAndFile
  installArgs := "-m pip install space_tracer"
  showSource := true
  showDebug := false
  workspaceRoot := none
  skipLandingPage := false

inductive SettingsFault where
  | read (path : Path) (cause : Fault)
  /-- The text is no TOML. -/
  | syntaxError (path : Path)
  /-- The text is TOML of the wrong shape; `excerpt` shows where. -/
  | shape (path : Path) (excerpt detail : String)
  | arguments (field value : String)
  deriving DecidableEq, Repr

def SettingsFault.message : SettingsFault → String
  | .read path cause => "could not read settings file " ++ path ++ ": " ++ cause.message
  | .syntaxError path => "could not parse settings file " ++ path
  | .shape path excerpt detail =>
    "could not parse settings file " ++ path ++ ": " ++ excerpt ++ detail ++ "\n"
  | .arguments field value =>
    "setting `" ++ field ++ "` is not a valid argument list: " ++ value

/-- The fault behind a fault, if there is one. -/
def SettingsFault.cause? : SettingsFault → Option String
  | .read _ cause => some cause.message
  | .shape _ excerpt detail => some (excerpt ++ detail ++ "\n")
  | .syntaxError _ | .arguments .. => none

def displayFlags (s : Settings) : DisplayFlags := ⟨s.showSource, s.showDebug⟩

def splitArgs (field value : String) : Except SettingsFault (List String) :=
  match words? value with
  | some ws => .ok ws
  | none => .error (.arguments field value)

/-- A source that is delivered on standard input only leaves nothing to stand for a file. -/
def runOptions (s : Settings) (interpreter : Path) : Except SettingsFault Run.Options := do
  let tracerArgs ← splitArgs "tracer_args" s.tracerArgs
  if s.sourceDelivery = .stdin ∧ tracerArgs.any (Text.contains · Run.filePlaceholder) then
    throw (.arguments "tracer_args" s.tracerArgs)
  let installArgs ← splitArgs "install_args" s.installArgs
  return { interpreter
           debounce := s.delay
           tracerModule := s.tracerModule
           tracerArgs
           installArgs
           workspaceRoot := s.workspaceRoot }

end Settings

end TraceView
