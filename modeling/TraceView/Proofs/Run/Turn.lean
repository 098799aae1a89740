import TraceView.Run.Scheduler

/-!
# Turns

A run of the scheduler is a list of turns. Each turn brings its own surroundings, so any launch may
be refused, any kill and any write may fail, whatever was answered before. The clock reading of a
turn is free; where time matters it is required not to run backwards.
-/
namespace TraceView.Proofs.Run

open TraceView.Run

inductive Move where
  | request (snapshot : Snapshot) (trigger : Trigger)
  | reissue (id : DocumentId)
  | tick
  | complete (completion : Completion)
  | install (id : DocumentId)
  | close (id : DocumentId)

/-- The document for which a move is asked for; the clock and the ends of processes are for none. -/
def Move.asker? : Move → Option DocumentId
  | .request snapshot _ => some snapshot.document
  | .reissue id | .install id | .close id => some id
  | .tick | .complete _ => none

structure Turn where
  env : Surroundings
  now : Nat
  move : Move

namespace Turn

def apply (t : Turn) (s : Scheduler) : Scheduler :=
  match t.move with
  | .request snapshot trigger => (s.requestRun t.env snapshot trigger t.now).1
  | .reissue id => (s.reissue t.env id).1
  | .tick => (s.fireDue t.env t.now).1
  | .complete completion => s.complete t.env completion
  | .install id => (s.requestInstall t.env id).1
  | .close id => s.close t.env id

/-- Events of a turn, in order. -/
def did (t : Turn) (s : Scheduler) : List Event :=
  (t.apply s).events.drop s.events.length

/-- Notices of a turn, in order. -/
def told (t : Turn) (s : Scheduler) : List Notice :=
  (t.apply s).notices.drop s.notices.length

end Turn

def play (s : Scheduler) (turns : List Turn) : Scheduler :=
  turns.foldl (fun s t => t.apply s) s

@[simp] theorem play_nil (s : Scheduler) : play s [] = s := rfl

@[simp] theorem play_append (s : Scheduler) (turns more : List Turn) :
    play s (turns ++ more) = play (play s turns) more :=
  List.foldl_append

@[simp] theorem play_cons (s : Scheduler) (t : Turn) (turns : List Turn) :
    play s (t :: turns) = play (t.apply s) turns := rfl

theorem split_snoc {α : Type} {past before later : List α} {t u : α}
    (h : past ++ [t] = before ++ u :: later) :
    (past = before ∧ t = u ∧ later = []) ∨
      ∃ rest, later = rest ++ [t] ∧ past = before ++ u :: rest := by
  rcases List.eq_nil_or_concat later with rfl | ⟨rest, t', rfl⟩
  · obtain ⟨he, ht⟩ := List.append_inj' h rfl
    exact .inl ⟨he, List.singleton_inj.mp ht, rfl⟩
  · have h' : past ++ [t] = (before ++ u :: rest) ++ [t'] := by simpa using h
    obtain ⟨he, ht⟩ := List.append_inj' h' rfl
    cases List.singleton_inj.mp ht
    exact .inr ⟨rest, by simp, he⟩

/-- The interpreter a completion shows to have the tracer. -/
def vouched? : Completion → Option Path
  | ⟨.trace .., _⟩ => none
  | ⟨.probe interpreter, outcome⟩ => if outcome.success then some interpreter else none
  | ⟨.install interpreter _, outcome⟩ => if outcome.success then some interpreter else none

/-- The scheduler after it has taken note of a completion, before it wakes anyone. -/
def heard (s : Scheduler) (completion : Completion) : Scheduler :=
  match completion with
  | ⟨.trace .., _⟩ => s
  | ⟨.probe interpreter, outcome⟩ =>
    let s := s.log .info "availability probe finished"
      [("interpreter", interpreter), ("importable", toString outcome.success)]
    { s with availability := s.availability.finishProbe interpreter outcome.success }.allowPrompts
      interpreter
  | ⟨.install interpreter id, outcome⟩ =>
    let s := { s with availability := s.availability.finishInstall interpreter outcome.success }
    let s :=
      if outcome.success then s.log .info "tracer installed" [("interpreter", interpreter)]
      else s.log .warn "tracer installation failed" [("interpreter", interpreter)]
    let s := s.notify (.installFinished id interpreter outcome.success outcome.combined)
    if outcome.success then s.allowPrompts interpreter else s

/-- Attempts made one after the other, with what comes of each. -/
def launches (env : Surroundings) (s : Scheduler) :
    List DocumentId → List (DocumentId × Decision)
  | [] => []
  | id :: rest =>
    let (s, decision) := s.launchLatest env id
    (id, decision) :: launches env s rest

/-- The launch attempts of a turn in order: the document and what comes of it. -/
def Turn.attempts (t : Turn) (s : Scheduler) : List (DocumentId × Decision) :=
  match t.move with
  | .request _ .change => []
  | .request snapshot trigger =>
    [(snapshot.document, (s.requestRun t.env snapshot trigger t.now).2)]
  | .reissue id => [(id, (s.reissue t.env id).2)]
  | .tick => (s.fireDue t.env t.now).2
  | .complete completion =>
    match vouched? completion with
    | some interpreter =>
      let s := heard s completion
      launches t.env s (s.waiting interpreter)
    | none => []
  | .install _ => []
  | .close _ => []

def Turn.attempted (t : Turn) (s : Scheduler) : List DocumentId :=
  (t.attempts s).map (·.1)

/-- Surroundings that refuse nothing. -/
def obliging : Surroundings where
  spawn _ _ _ := none
  kill _ := none
  scratch _ := .ok "copy"
  write _ := none

def plainOptions : Options := ⟨"python", 300, "tracer", [], [], none⟩

end TraceView.Proofs.Run
