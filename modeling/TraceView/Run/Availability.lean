import TraceView.Keyed
import TraceView.Path

/-!
# Is the tracer there?

What is known about each interpreter: the verdict of the last probe or install, and whether a probe
or an install is under way. Paths with the same components are one interpreter.
-/

namespace TraceView.Run

inductive Status where
  | unknown
  | probing
  | available
  | unavailable
  deriving DecidableEq, Repr

structure Knowledge where
  importable : Option Bool
  probing : Bool
  installing : Bool
  deriving DecidableEq, Repr

namespace Knowledge

def blank : Knowledge := ⟨none, false, false⟩

/-- A verdict counts for more than a probe under way. -/
def status (k : Knowledge) : Status :=
  match k.importable with
  | some true => .available
  | some false => .unavailable
  | none => if k.probing then .probing else .unknown

end Knowledge

abbrev Availability := Keyed Path Knowledge

namespace Availability

def withVerdict (interpreter : Path) (importable : Bool) : Availability :=
  [(interpreter.canonical, ⟨some importable, false, false⟩)]

def knowledge (a : Availability) (interpreter : Path) : Knowledge :=
  (Keyed.get? a interpreter.canonical).getD .blank

def set (a : Availability) (interpreter : Path) (k : Knowledge) : Availability :=
  Keyed.insert a interpreter.canonical k

def status (a : Availability) (interpreter : Path) : Status :=
  (a.knowledge interpreter).status

def isInstalling (a : Availability) (interpreter : Path) : Bool :=
  (a.knowledge interpreter).installing

/-- None if a probe is already under way. -/
def beginProbe? (a : Availability) (interpreter : Path) : Option Availability :=
  let k := a.knowledge interpreter
  if k.probing then none else some (a.set interpreter { k with probing := true })

def finishProbe (a : Availability) (interpreter : Path) (importable : Bool) : Availability :=
  a.set interpreter
    { a.knowledge interpreter with probing := false, importable := some importable }

/-- Forgets the verdict. -/
def invalidate (a : Availability) (interpreter : Path) : Availability :=
  a.set interpreter { a.knowledge interpreter with importable := none }

/-- None if an install is already under way. -/
def beginInstall? (a : Availability) (interpreter : Path) : Option Availability :=
  let k := a.knowledge interpreter
  if k.installing then none else some (a.set interpreter { k with installing := true })

/-- Only a success is a verdict. -/
def finishInstall (a : Availability) (interpreter : Path) (success : Bool) : Availability :=
  let k := { a.knowledge interpreter with installing := false }
  a.set interpreter (if success then { k with importable := some true } else k)

end Availability

end TraceView.Run
