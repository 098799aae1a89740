import TraceView.Fault
import TraceView.Path
import TraceView.Text.Blank

/-!
# Processes and how they end

What is started and for what, how a start is refused and how a process ends. Nothing here starts
anything.
-/

namespace TraceView.Run

abbrev DocumentId := String

/-- Numbers the starts of runs. It stands for a word of 64 bits, as `2 ^ 64` starts are never
reached. -/
abbrev Token := Nat

/-- A text that a document had when a run was asked for. -/
structure Snapshot where
  document : DocumentId
  text : String
  path : Option Path
  deriving DecidableEq, Repr

/-- A program to start; without `stdin` it reads nothing. -/
structure LaunchSpec where
  program : Path
  args : List String
  cwd : Option Path
  stdin : Option String
  deriving DecidableEq, Repr

/-- What a process is for. -/
inductive LaunchTag where
  | trace (document : DocumentId) (token : Token)
  | probe (interpreter : Path)
  | install (interpreter : Path) (document : DocumentId)
  deriving DecidableEq, Repr

inductive LaunchFault where
  | spawn (program : Path) (cause : Fault)
  | sourceCopy (path : Path) (cause : Fault)
  deriving DecidableEq, Repr

inductive InstallFault where
  | alreadyInProgress (interpreter : Path)
  | launch (cause : LaunchFault)
  deriving DecidableEq, Repr

/-- How a process ended: by itself, where a signal leaves no exit code, or unobserved. -/
inductive Outcome where
  | exited (code : Option Int) (stdout stderr : String)
  | failed (reason : String)
  deriving DecidableEq, Repr

structure Completion where
  tag : LaunchTag
  outcome : Outcome
  deriving DecidableEq, Repr

def LaunchFault.message : LaunchFault → String
  | .spawn program cause => "could not spawn `" ++ program ++ "`: " ++ cause.message
  | .sourceCopy path cause => "could not write source copy to " ++ path ++ ": " ++ cause.message

/-- Is it the program that was not found? -/
def LaunchFault.isNotFound : LaunchFault → Bool
  | .spawn _ cause => cause.kind = .notFound
  | .sourceCopy .. => false

def InstallFault.message : InstallFault → String
  | .alreadyInProgress interpreter => "an installation is already running for " ++ interpreter
  | .launch cause => cause.message

def Outcome.success : Outcome → Bool
  | .exited code _ _ => code = some 0
  | .failed _ => false

/-- Both outputs, the empty ones left out. -/
def Outcome.combined : Outcome → String
  | .exited _ stdout stderr =>
    Text.trim (String.intercalate "\n" ([stdout, stderr].filter (· ≠ "")))
  | .failed reason => reason

end TraceView.Run
