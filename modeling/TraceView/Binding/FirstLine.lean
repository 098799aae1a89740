import TraceView.Binding.LoopTarget
import TraceView.Keyed
import TraceView.Text.Lines

/-!
# Where names are first bound

Maps each name that a text binds to the first line that binds it. A name that is never bound
belongs to the last line.
-/

namespace TraceView.Binding

def boundNames (line : String) : List String :=
  assignedNames line ++ loopTargets line

structure FirstLines where
  lines : Keyed String Nat
  lineCount : Nat

namespace FirstLines

/-- An earlier line of the same name stays. -/
def note (i : Nat) (m : Keyed String Nat) (name : String) : Keyed String Nat :=
  if Keyed.has m name then m else Keyed.insert m name i

def ofLines (i : Nat) (m : Keyed String Nat) : List String → Keyed String Nat
  | [] => m
  | line :: rest => ofLines (i + 1) ((boundNames line).foldl (note i) m) rest

def ofText (text : String) : FirstLines :=
  let lines := Text.lines text
  ⟨ofLines 0 [] lines, lines.length⟩

def lookup? (m : FirstLines) (name : String) : Option Nat :=
  Keyed.get? m.lines name

def lastLine (m : FirstLines) : Nat :=
  m.lineCount - 1

def lineFor (m : FirstLines) (name : String) : Nat :=
  (m.lookup? name).getD m.lastLine

end FirstLines

end TraceView.Binding
