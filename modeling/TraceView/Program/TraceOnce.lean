import TraceView.Program.Start

/-!
# Tracing one file

Runs the tracer once over a file and prints the cells of its trace. That the tracer is there is
taken for granted; a run without it shows up as an error of the user.
-/

namespace TraceView.Program

open TraceView.Run

def usageText : String := "usage: trace_once <file.py>"

/-- Milliseconds that a tracer may take. -/
def traceLimit : Nat := 60000

def tooSlow : Failure := ⟨"tracer did not finish within 60s", ["timed out waiting on channel"]⟩

def decisionText : Decision → String
  | .launched token => "Launched(RunToken(" ++ toString token ++ "))"
  | .debounced due => "Debounced(" ++ toString due ++ ")"
  | .awaitingAvailability => "AwaitingAvailability"
  | .notRun reason => "NotRun(" ++ reason.name ++ ")"

/-- A number, set to the right in four places. -/
def lineNumber (n : Nat) : String :=
  let ds := Nat.toDigits 10 n
  String.ofList (List.replicate (4 - ds.length) ' ' ++ ds)

def rowTexts (n : Nat) : List Row → List String
  | [] => []
  | row :: rest =>
    (lineNumber n ++ ": [" ++ String.intercalate ", " (row.cells.map (Text.quoted ·.text)) ++
      "]") :: rowTexts (n + 1) rest

def deliveryLines (d : Delivery) : List String :=
  let grid := Grid.build d.source d.text
  ("Result: " ++ d.kind.name) :: if grid.rows = [] then [d.text] else rowTexts 1 grid.rows

def delivery? (notices : List Notice) : Option Delivery :=
  notices.findSome? fun
    | .delivered _ _ d => some d
    | _ => none

/-- The delivery, with the machine after the run; none if the tracer takes too long. -/
def awaitDelivery (m : Machine) (env : Surroundings) (s : Scheduler) :
    Machine × Option Delivery :=
  match delivery? s.notices with
  | some d => (m, some d)
  | none =>
    let launch := s.events.findSome? fun
      | .launched _ spec tag => some (spec, tag)
      | _ => none
    match launch with
    | none => (m, none)
    | some (spec, tag) =>
      match m.run spec with
      | .error _ => (m, none)
      | .ok transcript =>
        let m := { m with tree := transcript.tree }
        if traceLimit < Machine.noticed transcript.lifetime then (m, none)
        else (m, delivery? (s.complete env ⟨tag, transcript.outcome none⟩).notices)

def outputLines (lines : List String) : String :=
  String.join (lines.map (· ++ "\n"))

def traceOnce (m : Machine) (args : List String) : Ending :=
  match args with
  | [] => .failed m "" ⟨usageText, []⟩
  | path :: _ =>
    match readText m path, loadSettings m none with
    | .error failure, _ => .failed m "" failure
    | _, .error e => .failed m "" (settingsFailure e)
    | .ok text, .ok settings =>
      let interpreter := Interpreter.resolve m.env? settings.pythonPath m.isUsable
      let head := ["Interpreter: " ++ interpreter]
      match settings.runOptions interpreter with
      | .error e => .failed m (outputLines head) (settingsFailure e)
      | .ok options =>
        let env := (Editor.Host.siteOf m).toSurroundings
        let scheduler := Scheduler.new (.withVerdict interpreter true) options
        let (scheduler, decision) :=
          scheduler.requestRun env ⟨path, text, some path⟩ .explicit 0
        let head := head ++ ["Decision: " ++ decisionText decision]
        let m := scheduler.events.foldl Editor.Host.replay m
        match awaitDelivery m env scheduler with
        | (m, some d) => .success m (outputLines (head ++ deliveryLines d))
        | (m, none) => .failed m (outputLines head) tooSlow

end TraceView.Program
