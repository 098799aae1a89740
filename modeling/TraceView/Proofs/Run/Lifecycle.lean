import TraceView.Proofs.Run.Authority
import TraceView.Proofs.Run.Isolation

/-!
# The life of a run, as it is seen

A document keeps its run and, of the last one that stopped, how it stopped. Tokens are not given out
twice, so whatever is overwritten meanwhile a run that has left the view does not come back.
-/
namespace TraceView.Proofs.Run

open TraceView.Run

/-- The states of a run that has stopped. -/
inductive IsFinal : RunState → Prop where
  | completed : IsFinal .completed
  | failed : IsFinal .failed
  | superseded : IsFinal .superseded

/-- What is seen of a run at the start and after each turn. -/
def seen (s : Scheduler) (d : DocumentId) (k : Token) : List Turn → List (Option RunState)
  | [] => [s.runState? d k]
  | t :: turns => s.runState? d k :: seen (t.apply s) d k turns

/-- Nothing is seen, then the run, then how it stopped, then nothing again. -/
def lifeline (before running : Nat) (final : RunState) (stopped after : Nat) :
    List (Option RunState) :=
  List.replicate before none ++ (List.replicate running (some .running) ++
    (List.replicate stopped (some final) ++ List.replicate after none))

/-- A turn brings the completion of a run, and its result is delivered. -/
structure Accepts (s : Scheduler) (t : Turn) (d : DocumentId) (k : Token) (outcome : Outcome) :
    Prop where
  heard : t.move = .complete ⟨.trace d k, outcome⟩
  delivered : ∃ delivery, .delivered d k delivery ∈ t.told s

/-- A turn kills the process that was started for a run. -/
def Kills (s : Scheduler) (t : Turn) (d : DocumentId) (k : Token) : Prop :=
  ∃ process, .killed process ∈ t.did s ∧
    ∀ tag, Started (t.apply s) process tag ↔ tag = .trace d k

/-- A turn decides to launch a run, which fails. -/
structure FailsLaunch (s : Scheduler) (t : Turn) (d : DocumentId) (k : Token) : Prop where
  decided : (d, .notRun .launchFailed) ∈ t.attempts s
  told : ∃ delivery, .delivered d k delivery ∈ t.told s

/-- What is seen of a run over some turns, and the turns it goes back to. -/
structure Lives (start : Scheduler) (turns : List Turn) (d : DocumentId) (k : Token) : Prop where
  forward : ∃ before running final stopped after, IsFinal final ∧
    seen start d k turns = lifeline before running final stopped after
  running : ∀ past, past <+: turns →
    ((play start past).runState? d k = some .running ↔ (play start past).phase d = .running k)
  completed : ∀ past, past <+: turns → (play start past).runState? d k = some .completed →
    ∃ before t later stdout stderr, past = before ++ t :: later ∧
      Accepts (play start before) t d k (.exited (some 0) stdout stderr)
  failed : ∀ past, past <+: turns → (play start past).runState? d k = some .failed →
    ∃ before t later outcome, past = before ++ t :: later ∧
      Accepts (play start before) t d k outcome ∧
      ∀ stdout stderr, outcome ≠ .exited (some 0) stdout stderr
  superseded : ∀ past, past <+: turns → (play start past).runState? d k = some .superseded →
    ∃ before t later, past = before ++ t :: later ∧ Kills (play start before) t d k
  unlaunched : ∀ before t later, turns = before ++ t :: later →
    FailsLaunch (play start before) t d k →
      ∀ past, past <+: turns → (play start past).runState? d k = none

variable {s s' : Scheduler} {t : Turn} {d : DocumentId} {k : Token} {a : Act} {l : List Act}
  {run : TraceRun} {final : RunState}

/-- The last run of a document that stopped, and how. -/
def endedOf (s : Scheduler) (d : DocumentId) : Option (Token × RunState) :=
  (bare s d).bind (·.ended)

theorem runState_eq (s : Scheduler) (d : DocumentId) (k : Token) :
    s.runState? d k =
      match (activeOf s d).filter (·.token = k), (endedOf s d).filter (·.1 = k) with
      | some run, _ => some run.state
      | none, some ended => some ended.2
      | none, none => none := by
  rw [Scheduler.runState?, activeOf, endedOf, bare]
  cases s.slot? d <;> rfl

theorem runState_active (h : activeOf s d = some run) (hk : run.token = k) :
    s.runState? d k = some run.state := by
  rw [runState_eq, h, Option.filter_some, if_pos (decide_eq_true hk)]

theorem runState_ended (h : ∀ run, activeOf s d = some run → run.token ≠ k) :
    s.runState? d k = ((endedOf s d).filter (·.1 = k)).map (·.2) := by
  have hnone : (activeOf s d).filter (·.token = k) = none := by
    refine Option.filter_eq_none_iff.mpr fun run hrun => ?_
    simpa using h run hrun
  rw [runState_eq, hnone]
  cases (endedOf s d).filter (·.1 = k) <;> rfl

theorem success_iff (outcome : Outcome) :
    outcome.success = true ↔ ∃ stdout stderr, outcome = .exited (some 0) stdout stderr := by
  cases outcome <;> simp [Outcome.success]

theorem kind_output_iff (outcome : Outcome) :
    (classify outcome).1 = .output ↔ outcome.success = true := by
  unfold classify
  split
  · simp [Outcome.success]
  · simp [Outcome.success]
  · next code _ _ hcode =>
    have hne : code ≠ 0 := fun he => hcode (by rw [he])
    simp [Outcome.success, hne]
  · simp [Outcome.success]

/-- The acts that stop a run, and the state they leave it in. -/
inductive Stops (d : DocumentId) (k : Token) : Act → RunState → Prop where
  | killed {process} : Stops d k (.kill d k process) .superseded
  | completed {delivery : Delivery} (h : delivery.kind = .output) :
      Stops d k (.accept d k delivery) .completed
  | failed {delivery : Delivery} (h : delivery.kind ≠ .output) :
      Stops d k (.accept d k delivery) .failed

theorem Stops.isFinal (h : Stops d k a final) : IsFinal final := by
  cases h <;> constructor

/-- What an act makes of the run and the record of a document. -/
inductive Revises (s : Scheduler) (a : Act) (s' : Scheduler) (d : DocumentId) : Prop where
  | same (ha : activeOf s' d = activeOf s d) (he : endedOf s' d = endedOf s d)
  | started {run : TraceRun} {process spec copies} (ha : a = .start d run.token process spec copies)
      (hnew : run.token = s.lastToken + 1) (hlast : s'.lastToken = run.token)
      (hstate : run.state = .running) (hn : activeOf s d = none) (hs : activeOf s' d = some run)
      (he : endedOf s' d = endedOf s d)
  | stopped {run : TraceRun} {final : RunState} (ha : Stops d run.token a final)
      (hs : activeOf s d = some run) (hn : activeOf s' d = none)
      (he : endedOf s' d = some (run.token, final))
  | closed (hn : activeOf s' d = none) (he : endedOf s' d = none)

theorem revises_put {slot slot' : Slot} (hs : s.slot? d = some slot)
    (hs' : s'.documents = (put s d slot').documents) (ha : slot'.active = slot.active)
    (he : slot'.ended = slot.ended) : Revises s a s' d :=
  .same ((bind_put _ hs').trans (ha.trans (bind_slot (·.active) hs).symm))
    ((bind_put _ hs').trans (he.trans (bind_slot (·.ended) hs).symm))

theorem Does.revises (hf : Formed s) (h : Does s a s') (d : DocumentId) : Revises s a s' d := by
  by_cases hd : a.subject = some d
  · cases h with
    | @ask snapshot due =>
      cases hd
      refine .same ((bind_put _ rfl).trans ?_) ((bind_put _ rfl).trans ?_)
      · rw [activeOf, bare]
        cases s.slot? snapshot.document <;> rfl
      · rw [endedOf, bare]
        cases s.slot? snapshot.document <;> rfl
    | calm hs | release hs | park hs | miscopy hs | refuse hs =>
      cases hd
      exact revises_put hs rfl rfl rfl
    | kill hs ha =>
      cases hd
      exact .stopped .killed ((bind_slot _ hs).trans ha) (bind_put _ rfl) (bind_put _ rfl)
    | start hs ha =>
      cases hd
      exact .started rfl rfl rfl rfl ((bind_slot _ hs).trans ha) (bind_put _ rfl)
        ((bind_put _ rfl).trans (bind_slot (·.ended) hs).symm)
    | @accept _ token slot run outcome delivery es hs hl ha hdelivery =>
      cases hd
      -- The token that is expected is the one of the active run.
      have htoken : run.token = token := by
        have hlatest := (hf.sound hs).latest
        rw [hl, ha] at hlatest
        exact (Option.some.inj hlatest).symm
      subst htoken
      refine .stopped ?_ ((bind_slot _ hs).trans ha) (bind_put _ rfl) (bind_put _ rfl)
      have hkind : delivery.kind = (classify outcome).1 := congrArg Delivery.kind hdelivery
      rw [TraceRun.finish]
      by_cases hsuccess : outcome.success = true
      · rw [if_pos hsuccess]
        exact .completed (hkind.trans ((kind_output_iff outcome).mpr hsuccess))
      · rw [if_neg hsuccess]
        exact .failed fun he => hsuccess ((kind_output_iff outcome).mp (hkind.symm.trans he))
    | install | installRefused =>
      cases hd
      exact .same (bind_gated _ rfl fun _ _ => rfl) (bind_gated _ rfl fun _ _ => rfl)
    | close =>
      cases hd
      exact .closed (bind_erased _ rfl) (bind_erased _ rfl)
    | _ => cases hd
  · have hbare := bare_does h hd
    exact .same (by rw [activeOf, hbare, activeOf]) (by rw [endedOf, hbare, endedOf])

/-- Runs are running and records are final, and both have tokens that were given out. -/
structure Aged (s : Scheduler) : Prop where
  running : ∀ d run, activeOf s d = some run → run.token ≤ s.lastToken ∧ run.state = .running
  ended : ∀ d token state, endedOf s d = some (token, state) →
    token ≤ s.lastToken ∧ IsFinal state

theorem aged_new (availability : Availability) (options : Options) :
    Aged (.new availability options) where
  running := by
    intro d run hrun
    cases hrun
  ended := by
    intro d token state hended
    cases hended

theorem Aged.does (hg : Aged s) (hf : Formed s) (h : Does s a s') : Aged s' := by
  have hlast := (counts_does h).2
  have holder : ∀ d token state, endedOf s d = some (token, state) →
      token ≤ s'.lastToken ∧ IsFinal state := by
    intro d token state hended
    obtain ⟨hk, hfinal⟩ := hg.ended d token state hended
    exact ⟨Nat.le_trans hk hlast, hfinal⟩
  constructor
  · intro d run hrun
    cases h.revises hf d with
    | same ha =>
      obtain ⟨hk, hstate⟩ := hg.running d run (ha.symm.trans hrun)
      exact ⟨Nat.le_trans hk hlast, hstate⟩
    | started ha hnew hlast' hstate hn hs =>
      cases hs.symm.trans hrun
      exact ⟨Nat.le_of_eq hlast'.symm, hstate⟩
    | stopped ha hs hn | closed hn => cases hn.symm.trans hrun
  · intro d token state hended
    cases h.revises hf d with
    | same ha he | started ha hnew hlast' hstate hn hs he =>
      exact holder d token state (he.symm.trans hended)
    | stopped ha hs hn he =>
      cases he.symm.trans hended
      exact ⟨Nat.le_trans (hg.running d _ hs).1 hlast, ha.isFinal⟩
    | closed hn he => cases he.symm.trans hended

theorem Aged.acts (hg : Aged s) (hf : Formed s) (h : Acts s l s') : Aged s' := by
  induction h with
  | nil => exact hg
  | cons first _ ih => exact ih (hg.does hf first) (hf.does first)

theorem Aged.running_iff (hg : Aged s) :
    s.runState? d k = some .running ↔ ∃ run, activeOf s d = some run ∧ run.token = k := by
  constructor
  · intro hs
    by_contra hno
    rw [runState_ended fun run hrun hk => hno ⟨run, hrun, hk⟩] at hs
    obtain ⟨⟨token, state⟩, hended, rfl⟩ := Option.map_eq_some_iff.mp hs
    cases (hg.ended d token _ (Option.filter_eq_some_iff.mp hended).1).2
  · rintro ⟨run, hrun, hk⟩
    rw [runState_active hrun hk, (hg.running d run hrun).2]

theorem phase_running_iff (s : Scheduler) (d : DocumentId) (k : Token) :
    s.phase d = .running k ↔ ∃ run, activeOf s d = some run ∧ run.token = k := by
  rw [Scheduler.phase]
  cases hs : s.slot? d with
  | none => simp [activeOf, bare, hs]
  | some slot =>
    have hactive : activeOf s d = slot.active := bind_slot _ hs
    rw [hactive]
    cases ha : slot.active with
    | some run => simp [ha]
    | none => cases hdue : slot.due <;> cases hgate : slot.gatedOn <;> simp [ha, hdue, hgate]

/-- What is seen of a run that is not running is how it stopped. -/
theorem Aged.isFinal (hg : Aged s) {state : RunState} (h : s.runState? d k = some state)
    (hne : state ≠ .running) : IsFinal state := by
  have hno : ∀ run, activeOf s d = some run → run.token ≠ k := by
    intro run hrun hk
    rw [hg.running_iff.mpr ⟨run, hrun, hk⟩] at h
    exact hne (Option.some.inj h).symm
  rw [runState_ended hno] at h
  obtain ⟨⟨token, state⟩, hended, rfl⟩ := Option.map_eq_some_iff.mp h
  exact (hg.ended d token _ (Option.filter_eq_some_iff.mp hended).1).2

theorem Aged.unborn (hg : Aged s) (hk : s.lastToken < k) : s.runState? d k = none := by
  have hno : ∀ run, activeOf s d = some run → run.token ≠ k := by
    rintro run hrun rfl
    exact Nat.not_le_of_lt hk (hg.running d run hrun).1
  rw [runState_ended hno, Option.map_eq_none_iff]
  refine Option.filter_eq_none_iff.mpr fun ⟨token, state⟩ hended => ?_
  have hne : token ≠ k := by
    rintro rfl
    exact Nat.not_le_of_lt hk (hg.ended d token state hended).1
  simpa using hne

/-- What an act makes of what is seen of a run. -/
inductive Alters (s : Scheduler) (a : Act) (s' : Scheduler) (d : DocumentId) (k : Token) :
    Prop where
  | kept (h : s'.runState? d k = s.runState? d k)
  | started {process spec copies} (ha : a = .start d k process spec copies)
      (hnew : s.lastToken < k) (h : s'.runState? d k = some .running)
  | stopped {final : RunState} (ha : Stops d k a final) (hs : s.runState? d k = some .running)
      (hs' : s'.runState? d k = some final)
  | lost (h : s'.runState? d k = none)

theorem Does.alters (hf : Formed s) (hg : Aged s) (h : Does s a s') (d : DocumentId) (k : Token) :
    Alters s a s' d k := by
  cases h.revises hf d with
  | same ha he => exact .kept (by rw [runState_eq, ha, he, ← runState_eq])
  | @started run process spec copies ha hnew hlast hstate hn hs he =>
    by_cases hk : run.token = k
    · subst hk
      refine .started ha (hnew ▸ Nat.lt_succ_self _) ?_
      rw [runState_active hs rfl, hstate]
    · refine .kept ?_
      rw [runState_ended (s := s') fun run' hrun' => ?_, runState_ended (s := s) (by simp [hn]), he]
      cases hs.symm.trans hrun'
      exact hk
  | @stopped run final ha hs hn he =>
    have hs' := runState_ended (s := s') (d := d) (k := k) (by simp [hn])
    rw [he] at hs'
    by_cases hk : run.token = k
    · subst hk
      exact .stopped ha (hg.running_iff.mpr ⟨run, hs, rfl⟩) (by simpa [Option.filter_some] using hs')
    · exact .lost (by simpa [Option.filter_some, hk] using hs')
  | closed hn he =>
    exact .lost (by rw [runState_ended (by simp [hn]), he]; rfl)

inductive LifeStage where
  /-- The token has not been given out. -/
  | unborn
  | running
  | stopped (final : RunState)
  | gone

def LifeStage.seen : LifeStage → Option RunState
  | .unborn | .gone => none
  | .running => some .running
  | .stopped final => some final

def stageOf (s : Scheduler) (d : DocumentId) (k : Token) : LifeStage :=
  if s.lastToken < k then .unborn
  else
    match s.runState? d k with
    | none => .gone
    | some .running => .running
    | some final => .stopped final

/-- The stages that may follow a stage. -/
inductive Later : LifeStage → LifeStage → Prop where
  | same (x) : Later x x
  | born (x) : Later .unborn x
  | stopped {final : RunState} (hf : IsFinal final) : Later .running (.stopped final)
  | ended {final : RunState} (hf : IsFinal final) : Later (.stopped final) .gone
  | closed : Later .running .gone

theorem Later.trans {x y z : LifeStage} (h : Later x y) (h' : Later y z) : Later x z := by
  cases h with
  | same => exact h'
  | born => exact .born z
  | stopped hf =>
    cases h' with
    | same => exact .stopped hf
    | ended => exact .closed
  | ended hf =>
    cases h'
    exact .ended hf
  | closed =>
    cases h'
    exact .closed

theorem Aged.seen_stageOf (hg : Aged s) (d : DocumentId) (k : Token) :
    (stageOf s d k).seen = s.runState? d k := by
  rw [stageOf]
  split
  · next hk => exact (hg.unborn hk).symm
  · split <;> next h => rw [h]; rfl

theorem stageOf_unborn (hk : s.lastToken < k) : stageOf s d k = .unborn :=
  if_pos hk

theorem stageOf_gone (hk : ¬ s.lastToken < k) (h : s.runState? d k = none) :
    stageOf s d k = .gone := by
  rw [stageOf, if_neg hk, h]

theorem stageOf_running (hk : ¬ s.lastToken < k) (h : s.runState? d k = some .running) :
    stageOf s d k = .running := by
  rw [stageOf, if_neg hk, h]

theorem stageOf_stopped (hk : ¬ s.lastToken < k) (h : s.runState? d k = some final)
    (hfinal : IsFinal final) : stageOf s d k = .stopped final := by
  rw [stageOf, if_neg hk, h]
  cases hfinal <;> rfl

theorem Does.later (hf : Formed s) (hg : Aged s) (h : Does s a s') (d : DocumentId) (k : Token) :
    Later (stageOf s d k) (stageOf s' d k) := by
  have hlast := (counts_does h).2
  by_cases hk : s.lastToken < k
  · rw [stageOf_unborn hk]
    exact .born _
  have hk' : ¬ s'.lastToken < k := fun hk' => hk (Nat.lt_of_le_of_lt hlast hk')
  cases h.alters hf hg d k with
  | kept hsame =>
    have hstage : stageOf s' d k = stageOf s d k := by
      rw [stageOf, stageOf, if_neg hk, if_neg hk', hsame]
    rw [hstage]
    exact .same _
  | started ha hnew => exact absurd hnew hk
  | stopped ha hs hs' =>
    rw [stageOf_running hk hs, stageOf_stopped hk' hs' ha.isFinal]
    exact .stopped ha.isFinal
  | lost hs' =>
    rw [stageOf_gone hk' hs']
    cases hs : s.runState? d k with
    | none =>
      rw [stageOf_gone hk hs]
      exact .same _
    | some state =>
      by_cases hrun : state = .running
      · subst hrun
        rw [stageOf_running hk hs]
        exact .closed
      · have hfinal := hg.isFinal hs hrun
        rw [stageOf_stopped hk hs hfinal]
        exact .ended hfinal

theorem later_acts (hf : Formed s) (hg : Aged s) (h : Acts s l s') (d : DocumentId) (k : Token) :
    Later (stageOf s d k) (stageOf s' d k) := by
  induction h with
  | nil => exact .same _
  | cons first _ ih => exact (first.later hf hg d k).trans (ih (hf.does first) (hg.does hf first))

/-- The lists of what can be seen from a stage on. -/
def Shape : LifeStage → List (Option RunState) → Prop
  | .unborn, l => ∃ before running final stopped after,
    IsFinal final ∧ l = lifeline before running final stopped after
  | .running, l => ∃ running final stopped after,
    IsFinal final ∧ l = lifeline 0 running final stopped after
  | .stopped final, l => IsFinal final ∧ ∃ stopped after, l = lifeline 0 0 final stopped after
  | .gone, l => ∃ after, l = List.replicate after none

theorem Shape.weaken {x y : LifeStage} {seen : List (Option RunState)} (h : Later x y)
    (hs : Shape y seen) : Shape x seen := by
  cases h with
  | same => exact hs
  | born =>
    cases y with
    | unborn => exact hs
    | running =>
      obtain ⟨running, final, stopped, after, hfinal, rfl⟩ := hs
      exact ⟨0, running, final, stopped, after, hfinal, rfl⟩
    | stopped final =>
      obtain ⟨hfinal, stopped, after, rfl⟩ := hs
      exact ⟨0, 0, final, stopped, after, hfinal, rfl⟩
    | gone =>
      obtain ⟨after, rfl⟩ := hs
      exact ⟨0, 0, .completed, 0, after, .completed, rfl⟩
  | stopped =>
    obtain ⟨hfinal, stopped, after, rfl⟩ := hs
    exact ⟨0, _, stopped, after, hfinal, rfl⟩
  | ended hfinal =>
    obtain ⟨after, rfl⟩ := hs
    exact ⟨hfinal, 0, after, rfl⟩
  | closed =>
    obtain ⟨after, rfl⟩ := hs
    exact ⟨0, .completed, 0, after, .completed, rfl⟩

theorem Shape.cons {x : LifeStage} {seen : List (Option RunState)} (hs : Shape x seen) :
    Shape x (x.seen :: seen) := by
  cases x with
  | unborn =>
    obtain ⟨before, running, final, stopped, after, hfinal, rfl⟩ := hs
    exact ⟨before + 1, running, final, stopped, after, hfinal, rfl⟩
  | running =>
    obtain ⟨running, final, stopped, after, hfinal, rfl⟩ := hs
    exact ⟨running + 1, final, stopped, after, hfinal, rfl⟩
  | stopped final =>
    obtain ⟨hfinal, stopped, after, rfl⟩ := hs
    exact ⟨hfinal, stopped + 1, after, rfl⟩
  | gone =>
    obtain ⟨after, rfl⟩ := hs
    exact ⟨after + 1, rfl⟩

theorem Aged.shape_nil (hg : Aged s) (d : DocumentId) (k : Token) :
    Shape (stageOf s d k) [] := by
  have hseen := hg.seen_stageOf d k
  cases hx : stageOf s d k with
  | unborn => exact ⟨0, 0, .completed, 0, 0, .completed, rfl⟩
  | running => exact ⟨0, .completed, 0, 0, .completed, rfl⟩
  | gone => exact ⟨0, rfl⟩
  | stopped final =>
    rw [hx] at hseen
    refine ⟨hg.isFinal hseen.symm ?_, 0, 0, rfl⟩
    rintro rfl
    rw [stageOf, ← hseen] at hx
    split at hx <;> cases hx

/-- What is seen from some stage on has the shape for that stage. -/
theorem shape_seen (hf : Formed s) (hg : Aged s) (turns : List Turn) (d : DocumentId) (k : Token) :
    Shape (stageOf s d k) (seen s d k turns) := by
  -- The rest has the shape for a later stage, so also the one for this stage.
  induction turns generalizing s with
  | nil =>
    rw [seen, ← hg.seen_stageOf d k]
    exact (hg.shape_nil d k).cons
  | cons t turns ih =>
    obtain ⟨l, hl⟩ := turn_unfolds hf t
    rw [seen, ← hg.seen_stageOf d k]
    exact ((ih (hf.acts hl.acts) (hg.acts hf hl.acts)).weaken
      (later_acts hf hg hl.acts d k)).cons

/-- A final state that was not there before comes from an act that stops the run. -/
theorem stops_of_acts (hf : Formed s) (hg : Aged s) (h : Acts s l s') (hfinal : IsFinal final)
    (hs : s'.runState? d k = some final) :
    s.runState? d k = some final ∨ ∃ a ∈ l, Stops d k a final := by
  induction h with
  | nil => exact .inl hs
  | @cons s mid s' a l first rest ih =>
    rcases ih (hf.does first) (hg.does hf first) hs with hmid | ⟨b, hb, hstops⟩
    · cases first.alters hf hg d k with
      | kept h => exact .inl (h.symm.trans hmid)
      | started ha hnew h =>
        cases h.symm.trans hmid
        cases hfinal
      | stopped ha hs' h =>
        cases h.symm.trans hmid
        exact .inr ⟨a, List.mem_cons_self, ha⟩
      | lost h => cases h.symm.trans hmid
    · exact .inr ⟨b, List.mem_cons_of_mem _ hb, hstops⟩

theorem aged_play (hf : Formed s) (hg : Aged s) (turns : List Turn) : Aged (play s turns) := by
  obtain ⟨l, hl⟩ := acts_play hf turns
  exact hg.acts hf hl

/-- A run was stopped in the turn before which it was not seen so. -/
theorem stopped_in_turn (hf : Formed s) (hg : Aged s) {past : List Turn} (hfinal : IsFinal final)
    (hnone : s.runState? d k = none) (hs : (play s past).runState? d k = some final) :
    ∃ before t later l a, past = before ++ t :: later ∧
      Plays (play s before) t l (t.apply (play s before)) ∧ a ∈ l ∧ Stops d k a final := by
  induction past using List.reverseRecOn with
  | nil => cases hnone.symm.trans hs
  | append_singleton past t ih =>
    have hf' := formed_play hf past
    obtain ⟨l, hl⟩ := turn_unfolds hf' t
    rw [play_append] at hs
    rcases stops_of_acts hf' (aged_play hf hg past) hl.acts hfinal hs with hs | ⟨a, ha, hstops⟩
    · obtain ⟨before, u, later, l, a, rfl, hrest⟩ := ih hs
      exact ⟨before, u, later ++ [t], l, a, by simp, hrest⟩
    · exact ⟨past, t, [], l, a, rfl, hl, ha, hstops⟩

/-- A result is accepted in the turn that brings the completion of its run. -/
theorem Plays.accepts (hf : Formed s) (h : Plays s t l (t.apply s)) {delivery : Delivery}
    (ha : .accept d k delivery ∈ l) :
    ∃ outcome, Accepts s t d k outcome ∧ (delivery.kind = .output ↔ outcome.success = true) := by
  obtain ⟨outcome, hm⟩ := (h.course hf d).accept_move (mem_about.mpr ⟨ha, rfl⟩)
  have htold : .delivered d k delivery ∈ t.told s := h.mem_told ha (List.mem_singleton_self _)
  refine ⟨outcome, ⟨hm, delivery, htold⟩, ?_⟩
  rcases h.trace_cases hm with ⟨delivery', hd, rfl, -⟩ | ⟨rfl, -⟩
  · cases List.mem_singleton.mp ha
    rw [← kind_output_iff, ← congrArg Prod.fst hd]
  · cases List.mem_singleton.mp ha

/-- The process that is killed with a run is its own. -/
theorem Plays.kills (hacc : Accounted s) (h : Plays s t l (t.apply s))
    {process : Nat} (ha : .kill d k process ∈ l) : Kills s t d k := by
  obtain ⟨u, u', pre, post, rfl, hpre, hdoes, hpost⟩ := h.acts.split ha
  have hkilled : .killed process ∈ effects (t.did s) := by
    rw [h.did]
    exact List.mem_flatMap.mpr ⟨_, ha, List.mem_singleton_self _⟩
  have hfly : (process, k) ∈ flights (bare u d) := by
    cases hdoes with
    | kill hs hactive hp =>
      rw [flights_active (bare_some hs) hactive hp]
      exact List.mem_singleton_self _
  have hstarted := ((hacc.acts hpre).owned d process k hfly).acts (.cons hdoes hpost)
  refine ⟨process, (mem_effects.mp hkilled).1, fun tag => ⟨fun htag => ?_, ?_⟩⟩
  · exact (hacc.acts h.acts).unique htag hstarted
  · rintro rfl
    exact hstarted

/-- The token of a launch that fails is new, and it is not seen after. -/
theorem Does.fails (hf : Formed s) (hg : Aged s) {delivery : Delivery} {tried : List Event}
    (h : Does s (.fail d k delivery tried) s') :
    stageOf s d k = .unborn ∧ stageOf s' d k = .gone := by
  have hk : s.lastToken < k ∧ ¬ s'.lastToken < k := by
    cases h with
    | miscopy | refuse => exact ⟨Nat.lt_succ_self _, Nat.lt_irrefl _⟩
  refine ⟨stageOf_unborn hk.1, stageOf_gone hk.2 ?_⟩
  cases h.alters hf hg d k with
  | kept hs => exact hs.trans (hg.unborn hk.1)
  | started ha => cases ha
  | stopped ha => cases ha
  | lost hs => exact hs

theorem FailsLaunch.fails (hf : Formed s) (hg : Aged s) (h : FailsLaunch s t d k) :
    stageOf s d k = .unborn ∧ stageOf (t.apply s) d k = .gone := by
  obtain ⟨l, hl⟩ := turn_unfolds hf t
  obtain ⟨hdecided, delivery, htold⟩ := h
  rw [hl.told] at htold
  obtain ⟨a, ha, hnotice⟩ := List.mem_flatMap.mp htold
  -- A turn that accepts a result attempts nothing, so what is delivered is the failure.
  have hfail : ∃ tried, a = .fail d k delivery tried := by
    cases a with
    | fail =>
      cases List.mem_singleton.mp hnotice
      exact ⟨_, rfl⟩
    | accept =>
      cases List.mem_singleton.mp hnotice
      obtain ⟨outcome, hm⟩ := (hl.course hf d).accept_move (mem_about.mpr ⟨ha, rfl⟩)
      simp [Turn.attempts, hm, vouched?] at hdecided
    | start | prompt | installed => cases List.mem_singleton.mp hnotice
    | _ => cases hnotice
  obtain ⟨tried, rfl⟩ := hfail
  obtain ⟨u, u', pre, post, rfl, hpre, hdoes, hpost⟩ := hl.acts.split ha
  have hfu := hf.acts hpre
  have hgu := hg.acts hf hpre
  obtain ⟨hunborn, hgone⟩ := hdoes.fails hfu hgu
  have hbefore := later_acts hf hg hpre d k
  have hafter := later_acts (hfu.does hdoes) (hgu.does hfu hdoes) hpost d k
  rw [hunborn] at hbefore
  rw [hgone] at hafter
  constructor
  · generalize stageOf s d k = x at hbefore
    cases hbefore <;> rfl
  · generalize stageOf (t.apply s) d k = x at hafter
    cases hafter
    rfl

theorem later_play (hf : Formed s) (hg : Aged s) (past more : List Turn) (d : DocumentId)
    (k : Token) :
    Later (stageOf (play s past) d k) (stageOf (play s (past ++ more)) d k) := by
  obtain ⟨l, hl⟩ := acts_play (formed_play hf past) more
  rw [play_append]
  exact later_acts (formed_play hf past) (aged_play hf hg past) hl d k

/-- A run whose launch fails is seen neither before nor after. -/
theorem FailsLaunch.unseen (hf : Formed s) (hg : Aged s) {before later past : List Turn}
    (h : FailsLaunch (play s before) t d k) (hpast : past <+: before ++ t :: later) :
    (play s past).runState? d k = none := by
  obtain ⟨hunborn, hgone⟩ := h.fails (formed_play hf before) (aged_play hf hg before)
  rw [← (aged_play hf hg past).seen_stageOf d k]
  have hsplit : before ++ [t] <+: before ++ t :: later := ⟨later, by simp⟩
  rcases List.prefix_or_prefix_of_prefix hpast hsplit with hpre | ⟨more, rfl⟩
  · rcases List.prefix_concat_iff.mp hpre with rfl | ⟨more, rfl⟩
    · rw [play_append, play_cons, play_nil, hgone]
      rfl
    · have hlater := later_play hf hg past more d k
      rw [hunborn] at hlater
      generalize stageOf (play s past) d k = x at hlater ⊢
      cases hlater <;> rfl
  · have hlater := later_play hf hg (before ++ [t]) more d k
    rw [play_append s before [t], play_cons, play_nil, hgone] at hlater
    generalize stageOf (play s (before ++ [t] ++ more)) d k = x at hlater ⊢
    cases hlater
    rfl

/-- Whatever completes, fails or is killed, what is seen of a run only moves forward, and it
goes back to what was done. -/
theorem lives (availability : Availability) (options : Options) (turns : List Turn)
    (d : DocumentId) (k : Token) : Lives (.new availability options) turns d k := by
  have hf := formed_new availability options
  have hg := aged_new availability options
  constructor
  · have hshape := shape_seen hf hg turns d k
    exact hshape.weaken (.born _)
  · intro past _
    rw [(aged_play hf hg past).running_iff, phase_running_iff]
  · intro past _ hs
    obtain ⟨before, t, later, l, a, rfl, hl, ha, hstops⟩ :=
      stopped_in_turn hf hg .completed rfl hs
    cases hstops with
    | completed hkind =>
      obtain ⟨outcome, haccepts, hsuccess⟩ := hl.accepts (formed_play hf before) ha
      obtain ⟨stdout, stderr, rfl⟩ := (success_iff outcome).mp (hsuccess.mp hkind)
      exact ⟨before, t, later, stdout, stderr, rfl, haccepts⟩
  · intro past _ hs
    obtain ⟨before, t, later, l, a, rfl, hl, ha, hstops⟩ :=
      stopped_in_turn hf hg .failed rfl hs
    cases hstops with
    | failed hkind =>
      obtain ⟨outcome, haccepts, hsuccess⟩ := hl.accepts (formed_play hf before) ha
      refine ⟨before, t, later, outcome, rfl, haccepts, fun stdout stderr he => ?_⟩
      exact hkind (hsuccess.mpr ((success_iff outcome).mpr ⟨stdout, stderr, he⟩))
  · intro past _ hs
    obtain ⟨before, t, later, l, a, rfl, hl, ha, hstops⟩ :=
      stopped_in_turn hf hg .superseded rfl hs
    cases hstops with
    | killed =>
      refine ⟨before, t, later, rfl, hl.kills ?_ ha⟩
      exact accounted_play hf (accounted_new availability options) before
  · rintro before t later rfl hfails past hpast
    exact hfails.unseen hf hg hpast

end TraceView.Proofs.Run
