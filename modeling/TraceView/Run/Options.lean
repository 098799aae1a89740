import TraceView.Run.Launch
import TraceView.Text.Occurrence

/-!
# What is started for a run, a probe and an install
-/

namespace TraceView.Run

structure Options where
  interpreter : Path
  /-- Milliseconds between the last edit and the run. -/
  debounce : Nat
  tracerModule : String
  tracerArgs : List String
  installArgs : List String
  workspaceRoot : Option Path
  deriving DecidableEq, Repr

/-- In an argument of the tracer it stands for the path of the source copy. -/
def filePlaceholder : String := "\x7bfile\x7d"

def Options.default : Options where
  interpreter := "python"
  debounce := 300
  tracerModule := "space_tracer"
  tracerArgs := ["-m", "space_tracer", filePlaceholder]
  installArgs := ["-m", "pip", "install", "space_tracer"]
  workspaceRoot := none

namespace Options

/-- The workspace, else the directory of the document if it has a named one. -/
def workingDir (options : Options) (snapshot : Snapshot) : Option Path :=
  options.workspaceRoot.or <|
    (snapshot.path.bind Path.parent?).filter (· ≠ "")

def usesCopy (options : Options) : Bool :=
  options.tracerArgs.any (Text.contains · filePlaceholder)

def fillIn (options : Options) (file : Path) : List String :=
  options.tracerArgs.map (Text.replace · filePlaceholder file)

def traceSpec (options : Options) (snapshot : Snapshot) (args : List String) : LaunchSpec where
  program := options.interpreter
  args
  cwd := options.workingDir snapshot
  stdin := some snapshot.text

def probeSpec (options : Options) : LaunchSpec where
  program := options.interpreter
  args := ["-c", "import " ++ options.tracerModule]
  cwd := none
  stdin := none

def installSpec (options : Options) : LaunchSpec where
  program := options.interpreter
  args := options.installArgs
  cwd := options.workspaceRoot
  stdin := none

end Options

end TraceView.Run
