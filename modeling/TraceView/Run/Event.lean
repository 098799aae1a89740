import TraceView.Keyed
import TraceView.Log
import TraceView.Run.Launch

/-!
# What the scheduler does to the world

The scheduler does nothing itself. What it asks of the system is answered by `Surroundings`, and
what it did is written down as events, in order. `Disk` replays the events on scratch directories.
-/

namespace TraceView.Run

/-- Answers to what is asked for, in the order of asking. -/
structure Surroundings where
  /-- Why the launch of that number is refused, if it is. -/
  spawn : Nat → LaunchSpec → LaunchTag → Option Fault
  /-- Why killing that process fails, if it does. -/
  kill : Nat → Option Fault
  /-- The scratch directory of that number. -/
  scratch : Nat → Except LaunchFault Path
  /-- Why a file cannot be written, if it cannot. -/
  write : Path → Option Fault

inductive Event where
  | launched (process : Nat) (spec : LaunchSpec) (tag : LaunchTag)
  | refused (spec : LaunchSpec) (tag : LaunchTag)
  | killed (process : Nat)
  | scratchMade (dir : Path)
  | copyWritten (dir : Path) (name text : String)
  | scratchRemoved (dir : Path)
  | logged (line : Log.Line)
  deriving DecidableEq, Repr

/-- Scratch directories with their files. -/
abbrev Disk := Keyed Path (Keyed String String)

def Disk.replay (disk : Disk) : Event → Disk
  | .scratchMade dir => Keyed.insert disk dir []
  | .copyWritten dir name text =>
    Keyed.modify disk dir fun files => Keyed.insert files name text
  | .scratchRemoved dir => Keyed.erase disk dir
  | _ => disk

end TraceView.Run
