import TraceView.Proofs.KeyOrder
import TraceView.Run.Scheduler

/-!
# Acts

The indivisible things the scheduler does, each with the condition under which it does it and the
whole change it makes. Log lines are left open. A move is a list of acts; what holds of every act
holds of every run.
-/
namespace TraceView.Proofs.Run

open TraceView.Run
open TraceView.Proofs.KeyOrder (Ordered)

inductive Act where
  | idle
  | ask (snapshot : Snapshot) (due : Option Nat)
  /-- The timer of a document is stopped. -/
  | calm (id : DocumentId)
  /-- A launch attempt for a document begins; the run it had, if any, is given up. -/
  | release (id : DocumentId)
  | kill (id : DocumentId) (token : Token) (process : Nat)
  | park (id : DocumentId)
  | prompt (id : DocumentId) (interpreter : Path) (message : String)
  | probe (process : Nat) (spec : LaunchSpec) (interpreter : Path)
  | probeRefused (spec : LaunchSpec) (interpreter : Path)
  | start (id : DocumentId) (token : Token) (process : Nat) (spec : LaunchSpec)
      (copies : List Event)
  | fail (id : DocumentId) (token : Token) (delivery : Delivery) (tried : List Event)
  | accept (id : DocumentId) (token : Token) (delivery : Delivery)
  | judge (interpreter : Path) (importable : Bool)
  | install (id : DocumentId) (process : Nat) (spec : LaunchSpec) (interpreter : Path)
  | installRefused (id : DocumentId) (spec : LaunchSpec) (interpreter : Path)
  | installed (interpreter : Path) (id : DocumentId) (success : Bool) (output : String)
  | close (id : DocumentId) (process : Option Nat) (scratch : Option Path)

def isLogged : Event → Bool
  | .logged _ => true
  | _ => false

/-- The events that are more than log lines. -/
def effects (es : List Event) : List Event :=
  es.filter (!isLogged ·)

@[simp] theorem effects_nil : effects [] = [] := rfl

@[simp] theorem effects_append (es es' : List Event) :
    effects (es ++ es') = effects es ++ effects es' :=
  List.filter_append ..

@[simp] theorem effects_cons (e : Event) (es : List Event) :
    effects (e :: es) = if isLogged e then effects es else e :: effects es := by
  cases h : isLogged e <;> simp [effects, h]

theorem mem_effects {e : Event} {es : List Event} :
    e ∈ effects es ↔ e ∈ es ∧ isLogged e = false := by
  simp [effects]

/-- What is read off the events but for the log can be read off the effects. -/
theorem filterMap_effects {β : Type} {f : Event → Option β} (hf : ∀ line, f (.logged line) = none)
    (es : List Event) : (effects es).filterMap f = es.filterMap f := by
  induction es with
  | nil => rfl
  | cons e es ih => cases e <;> simp [isLogged, hf, List.filterMap_cons, ih]

namespace Act

def effects : Act → List Event
  | .kill _ _ process => [.killed process]
  | .probe process spec interpreter => [.launched process spec (.probe interpreter)]
  | .probeRefused spec interpreter => [.refused spec (.probe interpreter)]
  | .start id token process spec copies => copies ++ [.launched process spec (.trace id token)]
  | .fail _ _ _ tried => tried
  | .install id process spec interpreter =>
    [.launched process spec (.install interpreter id)]
  | .installRefused id spec interpreter => [.refused spec (.install interpreter id)]
  | .close _ process scratch =>
    process.toList.map Event.killed ++ scratch.toList.map Event.scratchRemoved
  | _ => []

def notices : Act → List Notice
  | .prompt id interpreter message => [.installPrompt id interpreter message]
  | .start id token .. => [.runStarted id token]
  | .fail id token delivery _ => [.delivered id token delivery]
  | .accept id token delivery => [.delivered id token delivery]
  | .installed interpreter id success output =>
    [.installFinished id interpreter success output]
  | _ => []

/-- The document whose slot an act changes, prompts apart. -/
def subject : Act → Option DocumentId
  | .ask snapshot _ => some snapshot.document
  | .calm id | .release id | .kill id .. | .park id | .start id .. | .fail id ..
  | .accept id .. | .install id .. | .installRefused id .. | .close id .. => some id
  | _ => none

end Act

def put (s : Scheduler) (id : DocumentId) (slot : Slot) : Scheduler :=
  { s with documents := Keyed.insert s.documents id slot }

def extend (s : Scheduler) (es : List Event) : Scheduler :=
  { s with events := s.events ++ es }

theorem emit_eq_extend (s : Scheduler) (e : Event) : s.emit e = extend s [e] := rfl

theorem extend_nil (s : Scheduler) : extend s [] = s := by
  simp only [extend, List.append_nil]

theorem extend_extend (s : Scheduler) (es es' : List Event) :
    extend (extend s es) es' = extend s (es ++ es') := by
  simp only [extend, List.append_assoc]

/-- What an install does to the slot of its document. -/
def gated (interpreter : Path) (slot : Slot) : Slot :=
  if slot.request.isSome then { slot with gatedOn := some interpreter } else slot

/-- What a launch that came to nothing leaves of the verdict. -/
def doubt (s : Scheduler) : LaunchFault → Availability
  | .spawn .. => s.availability.invalidate s.interpreter
  | .sourceCopy .. => s.availability

def renewed (success : Bool) (interpreter : Path) (s : Scheduler) : Scheduler :=
  if success then s.allowPrompts interpreter else s

/-- One act, from one state to the next. -/
inductive Does (s : Scheduler) : Act → Scheduler → Prop where
  | idle {es} (hes : effects es = []) : Does s .idle (extend s es)
  | ask {snapshot due es} (hes : effects es = []) :
      Does s (.ask snapshot due)
        (extend (put s snapshot.document
          { (s.slot? snapshot.document).getD .empty with request := some snapshot, due }) es)
  | calm {id slot} (hs : s.slot? id = some slot) :
      Does s (.calm id) (put s id { slot with due := none })
  | release {id slot} (hs : s.slot? id = some slot) (ha : slot.active = none) :
      Does s (.release id) (put s id { slot with latest := none })
  | kill {id slot run process es} (hs : s.slot? id = some slot) (ha : slot.active = some run)
      (hp : run.process = some process) (hes : effects es = [.killed process]) :
      Does s (.kill id run.token process)
        (extend (put s id { slot with
          active := none, ended := some (run.token, .superseded), latest := none }) es)
  | park {id slot} (hs : s.slot? id = some slot) :
      Does s (.park id) (put s id { slot with gatedOn := some s.interpreter })
  | prompt {id slot interpreter} (hs : s.slot? id = some slot) (hp : slot.prompted = false)
      (hg : slot.isGatedOn interpreter = true)
      (hu : s.availability.status interpreter = .unavailable) :
      Does s
        (.prompt id interpreter (installPromptMessage s.options.tracerModule interpreter))
        ((put s id { slot with prompted := true }).notify
          (.installPrompt id interpreter
            (installPromptMessage s.options.tracerModule interpreter)))
  | probe {availability es} (hu : s.availability.status s.interpreter = .unknown)
      (hb : s.availability.beginProbe? s.interpreter = some availability)
      (hes : effects es =
        [.launched s.processes s.options.probeSpec (.probe s.interpreter)]) :
      Does s (.probe s.processes s.options.probeSpec s.interpreter)
        { s with
          availability
          attempts := s.attempts + 1
          processes := s.processes + 1
          events := s.events ++ es }
  | probeRefused {availability es} (hu : s.availability.status s.interpreter = .unknown)
      (hb : s.availability.beginProbe? s.interpreter = some availability)
      (hes : effects es = [.refused s.options.probeSpec (.probe s.interpreter)]) :
      Does s (.probeRefused s.options.probeSpec s.interpreter)
        { s with
          availability := availability.finishProbe s.interpreter false
          attempts := s.attempts + 1
          events := s.events ++ es }
  | start {env p id slot snapshot spec es} (hs : s.slot? id = some slot)
      (ha : slot.active = none) (hr : slot.request = some snapshot)
      (hv : s.availability.status s.interpreter = .available)
      (hp : prepare env s.options snapshot slot.scratch s.scratches = p)
      (hok : p.spec = .ok spec)
      (hes : effects es =
        p.events ++ [.launched s.processes spec (.trace id (s.lastToken + 1))]) :
      Does s (.start id (s.lastToken + 1) s.processes spec p.events)
        { put s id { slot with
            scratch := p.scratch
            gatedOn := none
            latest := some (s.lastToken + 1)
            active := some ((TraceRun.new (s.lastToken + 1) s.interpreter snapshot.text).start
              s.processes) } with
          lastToken := s.lastToken + 1
          scratches := p.asked
          attempts := s.attempts + 1
          processes := s.processes + 1
          events := s.events ++ es
          notices := s.notices ++ [.runStarted id (s.lastToken + 1)] }
  /-- No process is asked for: the copy of the source could not be made. -/
  | miscopy {env p id slot snapshot fault delivery es} (hs : s.slot? id = some slot)
      (ha : slot.active = none) (hr : slot.request = some snapshot)
      (hv : s.availability.status s.interpreter = .available)
      (hp : prepare env s.options snapshot slot.scratch s.scratches = p)
      (hno : p.spec = .error fault)
      (hd : delivery =
        ⟨.infrastructure, launchFailureMessage fault, snapshot.text, s.interpreter⟩)
      (hes : effects es = p.events) :
      Does s (.fail id (s.lastToken + 1) delivery p.events)
        { put s id { slot with scratch := p.scratch, gatedOn := none } with
          availability := doubt s fault
          lastToken := s.lastToken + 1
          scratches := p.asked
          events := s.events ++ es
          notices := s.notices ++ [.delivered id (s.lastToken + 1) delivery] }
  | refuse {env p id slot snapshot spec cause delivery es} (hs : s.slot? id = some slot)
      (ha : slot.active = none) (hr : slot.request = some snapshot)
      (hv : s.availability.status s.interpreter = .available)
      (hp : prepare env s.options snapshot slot.scratch s.scratches = p)
      (hok : p.spec = .ok spec)
      (hd : delivery = ⟨.infrastructure, launchFailureMessage (.spawn spec.program cause),
        snapshot.text, s.interpreter⟩)
      (hes : effects es = p.events ++ [.refused spec (.trace id (s.lastToken + 1))]) :
      Does s
        (.fail id (s.lastToken + 1) delivery
          (p.events ++ [.refused spec (.trace id (s.lastToken + 1))]))
        { put s id { slot with scratch := p.scratch, gatedOn := none } with
          availability := s.availability.invalidate s.interpreter
          lastToken := s.lastToken + 1
          scratches := p.asked
          attempts := s.attempts + 1
          events := s.events ++ es
          notices := s.notices ++ [.delivered id (s.lastToken + 1) delivery] }
  | accept {id token slot run outcome delivery es} (hs : s.slot? id = some slot)
      (hl : slot.latest = some token) (ha : slot.active = some run)
      (hd : delivery = ⟨(classify outcome).1, (classify outcome).2, run.source,
        run.interpreter⟩)
      (hes : effects es = []) :
      Does s (.accept id token delivery)
        { put s id { slot with
            latest := none
            active := none
            ended := some (run.token, (run.finish outcome.success).state) } with
          availability :=
            if delivery.kind = .userError ∧ indicatesMissing delivery.text s.options.tracerModule
            then s.availability.invalidate run.interpreter else s.availability
          events := s.events ++ es
          notices := s.notices ++ [.delivered id token delivery] }
  | judge {interpreter importable es} (hes : effects es = []) :
      Does s (.judge interpreter importable)
        (extend ({ s with
          availability := s.availability.finishProbe interpreter importable }.allowPrompts
            interpreter) es)
  | install {id availability es}
      (hb : s.availability.beginInstall? s.interpreter = some availability)
      (hes : effects es =
        [.launched s.processes s.options.installSpec (.install s.interpreter id)]) :
      Does s (.install id s.processes s.options.installSpec s.interpreter)
        { s.update id (gated s.interpreter) with
          availability
          attempts := s.attempts + 1
          processes := s.processes + 1
          events := s.events ++ es }
  | installRefused {id availability es}
      (hb : s.availability.beginInstall? s.interpreter = some availability)
      (hes : effects es = [.refused s.options.installSpec (.install s.interpreter id)]) :
      Does s (.installRefused id s.options.installSpec s.interpreter)
        { s.update id (gated s.interpreter) with
          availability := availability.finishInstall s.interpreter false
          attempts := s.attempts + 1
          events := s.events ++ es }
  | installed {interpreter id success output es} (hes : effects es = []) :
      Does s (.installed interpreter id success output)
        (extend (renewed success interpreter
          ({ s with
            availability := s.availability.finishInstall interpreter success }.notify
              (.installFinished id interpreter success output))) es)
  | close {id slot es} (hs : s.slot? id = some slot)
      (hes : effects es = (slot.active.bind (·.process)).toList.map Event.killed ++
        slot.scratch.toList.map Event.scratchRemoved) :
      Does s (.close id (slot.active.bind (·.process)) slot.scratch)
        { s with documents := Keyed.erase s.documents id, events := s.events ++ es }

/-- Acts one after the other. -/
inductive Acts : Scheduler → List Act → Scheduler → Prop where
  | nil (s) : Acts s [] s
  | cons {s mid s' a l} (first : Does s a mid) (rest : Acts mid l s') : Acts s (a :: l) s'

theorem Acts.single {s s' : Scheduler} {a : Act} (h : Does s a s') : Acts s [a] s' :=
  .cons h (.nil _)

theorem Acts.append {s mid s' : Scheduler} {l l' : List Act} (h : Acts s l mid)
    (h' : Acts mid l' s') : Acts s (l ++ l') s' := by
  induction h with
  | nil => exact h'
  | cons first _ ih => exact .cons first (ih h')

end TraceView.Proofs.Run
