import TraceView.Path
import TraceView.Text.LowerCase

/-!
# Which interpreter runs the tracer

Candidates come from the environment, the settings and the search path, in this order. Of
candidates that differ in case only the first is tried, and the first usable one is taken.
-/

namespace TraceView.Interpreter

def fallback : Path := "python"

/-- Variables that name a directory with an interpreter in it. -/
def homeVariables : List String := ["CONDA_PREFIX", "VIRTUAL_ENV", "PYTHON_HOME"]

def inHome (dir : Path) : List Path :=
  ["python3", "python"].map fun name => Path.join (Path.join dir "bin") name

/-- A variable that is empty counts as unset. -/
def given? (env : String → Option String) (name : String) : Option String :=
  (env name).filter (· ≠ "")

def allCandidates (env : String → Option String) (configured : Option Path) : List Path :=
  (given? env "PYTHON_EXECUTABLE").toList ++
  homeVariables.flatMap (fun name => ((given? env name).map inHome).getD []) ++
  (configured.filter (· ≠ "")).toList ++ ["python3", fallback]

/-- Leaves out every path that equals an earlier one in lower case. -/
def distinctFrom (seen : List String) : List Path → List Path
  | [] => []
  | p :: rest =>
    let key := Text.lowerCase p
    if seen.contains key then distinctFrom seen rest else p :: distinctFrom (key :: seen) rest

def candidates (env : String → Option String) (configured : Option Path) : List Path :=
  distinctFrom [] (allCandidates env configured)

/-- The first usable candidate. -/
def found? (env : String → Option String) (configured : Option Path) (usable : Path → Bool) :
    Option Path :=
  (candidates env configured).find? usable

/-- Without a usable candidate the fallback is taken unchecked. -/
def resolve (env : String → Option String) (configured : Option Path) (usable : Path → Bool) :
    Path :=
  (found? env configured usable).getD fallback

end TraceView.Interpreter
