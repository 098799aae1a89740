import TraceView.Run.Launch
import TraceView.Text.Quoted

/-!
# The life of a run

A run waits, runs, and ends in one of three ways. While it runs it owns its process; superseding it
gives the process up to be killed.
-/

namespace TraceView.Run

inductive RunState where
  | pending
  | running
  | completed
  | failed
  | superseded
  deriving DecidableEq, Repr

/-- What a document is doing. Times are in milliseconds. -/
inductive Phase where
  | idle
  | pendingDebounce (due : Nat)
  | awaitingAvailability
  | running (token : Token)
  deriving DecidableEq, Repr

structure TraceRun where
  token : Token
  interpreter : Path
  source : String
  state : RunState
  /-- Number of the process, while the run owns one. -/
  process : Option Nat
  deriving DecidableEq, Repr

def RunState.name : RunState → String
  | .pending => "Pending"
  | .running => "Running"
  | .completed => "Completed"
  | .failed => "Failed"
  | .superseded => "Superseded"

namespace TraceRun

def new (token : Token) (interpreter : Path) (source : String) : TraceRun :=
  ⟨token, interpreter, source, .pending, none⟩

def start (run : TraceRun) (process : Nat) : TraceRun :=
  { run with state := .running, process := some process }

/-- The run as superseded, and the process that has to be killed. -/
def supersede (run : TraceRun) : TraceRun × Option Nat :=
  ({ run with state := .superseded, process := none }, run.process)

def finish (run : TraceRun) (succeeded : Bool) : TraceRun :=
  { run with state := if succeeded then .completed else .failed, process := none }

/-- How a diagnostic shows a run. The source is left out. -/
def summary (run : TraceRun) : String :=
  "TraceRun \x7b token: RunToken(" ++ toString run.token ++ "), interpreter: " ++
    Text.quotedPath run.interpreter ++ ", state: " ++ run.state.name ++ " \x7d"

end TraceRun

end TraceView.Run
