import TraceView.Run.Launch
import TraceView.Text.Occurrence

/-!
# What a run delivers

How an outcome is shown, and the notices by which the scheduler tells its host what happened.
-/

namespace TraceView.Run

inductive DeliveryKind where
  | output
  | userError
  | infrastructure
  deriving DecidableEq, Repr

def DeliveryKind.name : DeliveryKind → String
  | .output => "Output"
  | .userError => "UserError"
  | .infrastructure => "Infrastructure"

structure Delivery where
  kind : DeliveryKind
  text : String
  /-- The text that was traced. -/
  source : String
  interpreter : Path
  deriving DecidableEq, Repr

inductive Notice where
  | runStarted (document : DocumentId) (token : Token)
  | delivered (document : DocumentId) (token : Token) (delivery : Delivery)
  | installPrompt (document : DocumentId) (interpreter : Path) (message : String)
  | installFinished (document : DocumentId) (interpreter : Path) (success : Bool) (output : String)
  deriving DecidableEq, Repr

def noOutput : String := "(no output)"

def bySignal : String := "tracer terminated by signal"

/-- Kind and text under which an outcome is delivered. -/
def classify (outcome : Outcome) : DeliveryKind × String :=
  match outcome with
  | .failed reason => (.infrastructure, "Failed to run tracer: " ++ reason)
  | .exited (some 0) stdout _ => (.output, if stdout = "" then noOutput else stdout)
  | .exited (some code) _ _ =>
    let combined := outcome.combined
    (.userError, if combined = "" then "tracer exited with code " ++ toString code else combined)
  | .exited none _ _ =>
    let combined := outcome.combined
    (.userError, if combined = "" then bySignal else combined ++ "\n" ++ bySignal)

def pathHint : String :=
  "Are you sure you have installed Python 3 and it is in your PATH?\n" ++
    "You can download Python here: https://www.python.org/downloads/"

def launchFailureMessage (fault : LaunchFault) : String :=
  "Failed to start tracer: " ++ fault.message ++
    if fault.isNotFound then "\n\n" ++ pathHint else ""

def installPromptMessage (tracer : String) (interpreter : Path) : String :=
  "`" ++ tracer ++ "` is not importable with " ++ interpreter ++
    ". Install it to see live traces."

/-- Does an output say that the tracer is not installed? -/
def indicatesMissing (text tracer : String) : Bool :=
  Text.contains text ("No module named " ++ tracer) ||
    Text.contains text ("No module named '" ++ tracer ++ "'")

end TraceView.Run
