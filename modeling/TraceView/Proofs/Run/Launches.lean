import TraceView.Proofs.Run.Calls
import TraceView.Proofs.Run.Course

/-!
# What a turn asks for

Every turn comes to its end with calls nested four deep, whatever the state and whatever is refused.
It asks for a probe once at most, for a run of a document once at most, and for a run only where the
tracer is known to be there. A probe is begun only while nothing is known.
-/
namespace TraceView.Proofs.Run

open TraceView.Run

variable {s s' : Scheduler} {t : Turn} {l : List Act} {a : Act} {d : DocumentId}

theorem Asks.bounded (h : Asks s [] s') : Bounded s [] [] s' :=
  ⟨rfl, h, by simp, by simp⟩

theorem Asks.before {mid : Scheduler} {attempts : List (DocumentId × Decision)} {deeds : List Deed}
    (h : Asks s [] mid) (h' : Bounded mid attempts deeds s') : Bounded s attempts deeds s' :=
  ⟨h'.attempted, h.trans h'.asks, h'.available, h'.once⟩

theorem asks_finishTrace (s : Scheduler) (id : DocumentId) (token : Token) (outcome : Outcome) :
    Asks s [] (s.finishTrace id token outcome) := by
  unfold Scheduler.finishTrace
  dsimp only
  split
  · exact (quiet_log _ _ _ _).asks
  · split
    · exact (quiet_log _ _ _ _).asks
    · split
      · exact (quiet_update _ _ _).asks
      · split <;> split <;> exact ⟨rfl, [.logged _], rfl, rfl⟩

theorem asks_heard (s : Scheduler) (completion : Completion) : Asks s [] (heard s completion) := by
  obtain ⟨tag, outcome⟩ := completion
  cases tag with
  | trace id token => exact .of_eq rfl rfl
  | probe interpreter => exact ⟨rfl, [.logged _], rfl, rfl⟩
  | install interpreter id =>
    unfold heard
    dsimp only
    split <;> exact ⟨rfl, [.logged _], rfl, rfl⟩

theorem asks_close (env : Surroundings) (s : Scheduler) (id : DocumentId) :
    Asks s [] (s.close env id) := by
  unfold Scheduler.close
  split
  · exact .of_eq rfl rfl
  · next slot hs =>
    have hclosed := ((quiet_supersede env s id slot).trans
      (quiet_log _ .debug "document closed" [("document", id)])).asks
    have herased : Asks s [] { (s.supersede env id slot).1.log .debug "document closed"
        [("document", id)] with
          documents := Keyed.erase (s.supersede env id slot).1.documents id } :=
      ⟨hclosed.options, hclosed.asked⟩
    dsimp only
    split
    · exact herased
    · exact herased.trans (asks_emit _ (.scratchRemoved _))

/-- An install is neither a run nor a probe. -/
theorem bounded_requestInstall (env : Surroundings) (s : Scheduler) (id : DocumentId) :
    Bounded s [] (asksBetween s (s.requestInstall env id).1) (s.requestInstall env id).1 := by
  obtain ⟨tags, hasks, htags⟩ : ∃ tags, Asks s tags (s.requestInstall env id).1 ∧
      ∀ tag ∈ tags, tag = .install s.interpreter id := by
    unfold Scheduler.requestInstall
    dsimp only
    split
    · exact ⟨[], .of_eq rfl rfl, by simp⟩
    · next availability hb =>
      have hready : Asks s [] (({ s with availability := availability : Scheduler }.update id
          fun slot => if slot.request.isSome then { slot with gatedOn := some s.interpreter }
            else slot).log .info "installing tracer" [("interpreter", s.interpreter)]) :=
        ⟨rfl, [.logged _], rfl, rfl⟩
      generalize Scheduler.log _ Log.Level.info "installing tracer" _ = ready at hready ⊢
      have hlaunch := hready.trans (asks_launch env ready ready.options.installSpec
        (.install s.interpreter id)).1
      generalize ready.launch env _ _ = launched at hlaunch ⊢
      obtain ⟨s', fault | process⟩ := launched <;>
        exact ⟨_, ⟨hlaunch.options, hlaunch.asked⟩, by simp⟩
  refine .of_asks hasks (fun interpreter hm => ?_) (fun id' token hm => ?_) <;> cases htags _ hm

/-- A completion wakes the documents that wait for the interpreter it vouches for. -/
theorem attempts_vouched {completion : Completion} (hm : t.move = .complete completion)
    {interpreter : Path} (hv : vouched? completion = some interpreter) :
    t.attempts s =
      launches t.env (heard s completion) ((heard s completion).waiting interpreter) := by
  simp only [Turn.attempts, hm, hv]

theorem attempts_unvouched {completion : Completion} (hm : t.move = .complete completion)
    (hv : vouched? completion = none) : t.attempts s = [] := by
  simp only [Turn.attempts, hm, hv]

/-- Whenever the turn begins a probe nothing is known of the interpreter, and it has judged by the
completion it brings or not at all. -/
def BegunUnknown (s : Scheduler) (t : Turn) (deeds : List Deed) : Prop :=
  ∀ interpreter before, .beginProbe interpreter before ∈ deeds →
    ∃ u l, u.events = before ∧ verdict u = .unknown ∧ Judges s t l u ∧ Acts s l u

theorem begunUnknown_nil (s : Scheduler) (t : Turn) : BegunUnknown s t [] := nofun

theorem BegunAmid.unjudged {mid : Scheduler} {deeds : List Deed} (h : BegunAmid mid deeds)
    (hm : ∀ interpreter outcome, t.move ≠ .complete ⟨.probe interpreter, outcome⟩)
    (hl : Acts s l mid) (hnone : ∀ a ∈ l, ∀ p b, a ≠ .judge p b) : BegunUnknown s t deeds := by
  intro interpreter before hbegun
  obtain ⟨u, ⟨l', hl', hall⟩, he, hst⟩ := h interpreter before hbegun
  refine ⟨u, l ++ l', he, hst, .unjudged hm fun a ha => ?_, hl.append hl'⟩
  rcases List.mem_append.mp ha with ha | ha
  · exact hnone a ha
  · exact ne_judge hall a ha

theorem BegunAmid.judged {mid : Scheduler} {deeds : List Deed} {interpreter : Path}
    {outcome : Outcome} (h : BegunAmid mid deeds)
    (hm : t.move = .complete ⟨.probe interpreter, outcome⟩)
    (first : Does s (.judge interpreter outcome.success) mid) : BegunUnknown s t deeds := by
  intro interpreter' before hbegun
  obtain ⟨u, ⟨l, hl, hall⟩, he, hst⟩ := h interpreter' before hbegun
  exact ⟨u, _, he, hst, .judged hm rfl first hl (ne_judge hall), .cons first hl⟩

/-- A turn comes to its end with calls nested four deep, and makes its attempts. -/
def Nests (t : Turn) (s : Scheduler) : Prop :=
  ∃ deeds, (∀ n, t.calls (n + 4) s = some (t.apply s, deeds)) ∧
    Bounded s (t.attempts s) deeds (t.apply s) ∧ (Formed s → BegunUnknown s t deeds)

theorem probe_calls {interpreter : Path} {outcome : Outcome}
    (hm : t.move = .complete ⟨.probe interpreter, outcome⟩) (s : Scheduler) : Nests t s := by
  obtain ⟨deeds, hcall, hspends, hbegun⟩ :=
    resolveCall_eq t.env (heard s ⟨.probe interpreter, outcome⟩) interpreter
  have hjudge : Does s (.judge interpreter outcome.success)
      (heard s ⟨.probe interpreter, outcome⟩) := @Does.judge s _ _ [.logged _] rfl
  have ha : t.apply s =
      (heard s ⟨.probe interpreter, outcome⟩).resolveGated t.env interpreter := by
    rw [Turn.apply, hm]
    rfl
  have hst : (heard s ⟨.probe interpreter, outcome⟩).availability.status interpreter =
      if outcome.success then .available else .unavailable := status_finishProbe ..
  refine ⟨deeds, fun n => by simp only [Turn.calls, hm, hcall, ha], ?_,
    fun hf => (hbegun (hf.does hjudge)).judged hm hjudge⟩
  rw [ha]
  refine (asks_heard s ⟨.probe interpreter, outcome⟩).before ?_
  cases ho : outcome.success with
  | true =>
    have hv : vouched? ⟨.probe interpreter, outcome⟩ = some interpreter := by simp [vouched?, ho]
    rw [attempts_vouched hm hv]
    rw [hst, ho, if_pos rfl, if_pos rfl] at hspends
    exact hspends.toBounded
  | false =>
    rw [attempts_unvouched hm (by simp [vouched?, ho])]
    rw [hst, ho, if_neg Bool.false_ne_true, if_neg (by decide)] at hspends
    exact hspends.toBounded

theorem install_calls {interpreter : Path} {id : DocumentId} {outcome : Outcome}
    (hm : t.move = .complete ⟨.install interpreter id, outcome⟩) (s : Scheduler) : Nests t s := by
  have hheard := asks_heard s ⟨.install interpreter id, outcome⟩
  cases ho : outcome.success with
  | true =>
    obtain ⟨deeds, hcall, hspends, hbegun⟩ :=
      resolveCall_eq t.env (heard s ⟨.install interpreter id, outcome⟩) interpreter
    have hinstalled : Does s (.installed interpreter id true outcome.combined)
        (heard s ⟨.install interpreter id, outcome⟩) := by
      simp only [heard, ho, if_true]
      exact @Does.installed s _ _ _ _ [.logged _] rfl
    have ha : t.apply s =
        (heard s ⟨.install interpreter id, outcome⟩).resolveGated t.env interpreter := by
      simp only [Turn.apply, hm, Scheduler.complete, Scheduler.finishInstall, heard, ho, if_true]
    have hst : (heard s ⟨.install interpreter id, outcome⟩).availability.status interpreter =
        .available := by
      simp only [heard, ho, if_true]
      exact status_finishInstall ..
    refine ⟨deeds, fun n => by simp only [Turn.calls, hm, ho, if_true, hcall, ha], ?_,
      fun hf => (hbegun (hf.does hinstalled)).unjudged (by simp [hm]) (.single hinstalled)
        (by simp)⟩
    have hv : vouched? ⟨.install interpreter id, outcome⟩ = some interpreter := by
      simp [vouched?, ho]
    rw [ha, attempts_vouched hm hv]
    rw [hst, if_pos rfl] at hspends
    exact hheard.before hspends.toBounded
  | false =>
    have ha : t.apply s = heard s ⟨.install interpreter id, outcome⟩ := by
      simp only [Turn.apply, hm, Scheduler.complete, Scheduler.finishInstall, heard, ho,
        Bool.false_eq_true, if_false]
    refine ⟨[], fun n => by simp only [Turn.calls, hm, ho, Bool.false_eq_true, if_false, ha], ?_,
      fun _ => begunUnknown_nil s t⟩
    rw [ha, attempts_unvouched hm (by simp [vouched?, ho])]
    exact hheard.bounded

theorem request_calls {snapshot : Snapshot} {trigger : Trigger}
    (hm : t.move = .request snapshot trigger) (s : Scheduler) : Nests t s := by
  by_cases ht : trigger = .change
  · subst ht
    have hattempts : t.attempts s = [] := by simp only [Turn.attempts, hm]
    refine ⟨[], fun n => by simp only [Turn.calls, hm], ?_, fun _ => begunUnknown_nil s t⟩
    rw [hattempts, Turn.apply, hm]
    exact Asks.bounded ⟨rfl, [.logged _], rfl, rfl⟩
  · obtain ⟨asked, hasked⟩ : ∃ asked, asked = put s snapshot.document
        { (s.slot? snapshot.document).getD .empty with request := some snapshot, due := none } :=
      ⟨_, rfl⟩
    have hput : Asks s [] asked := hasked ▸ .of_eq rfl rfl
    have hask : Does s (.ask snapshot none) asked := by
      have hask := @Does.ask s snapshot none [] rfl
      rwa [extend_nil, ← hasked] at hask
    have hmove : s.requestRun t.env snapshot trigger t.now =
        asked.launchLatest t.env snapshot.document := by
      cases trigger with
      | change => exact absurd rfl ht
      | save | explicit => exact hasked ▸ rfl
    have hattempts : t.attempts s =
        [(snapshot.document, (asked.launchLatest t.env snapshot.document).2)] := by
      rw [← hmove]
      cases trigger with
      | change => exact absurd rfl ht
      | save | explicit => simp only [Turn.attempts, hm]
    obtain ⟨deeds, hcall, hspends, hbegun⟩ := launchCall_eq t.env asked snapshot.document
    refine ⟨deeds, fun n => ?_, ?_, fun hf =>
      (hbegun (hf.does hask)).unjudged (by simp [hm]) (.single hask) (by simp)⟩
    · cases trigger with
      | change => exact absurd rfl ht
      | save | explicit =>
        simp only [Turn.calls, Turn.apply, hm, hmove, ← hasked, hcall (n + 1), Option.bind_eq_bind,
          Option.bind_some]
    · simp only [hattempts, Turn.apply, hm, hmove]
      exact hput.before hspends.toBounded

theorem Turn.calls_eq (t : Turn) (s : Scheduler) : Nests t s := by
  cases hm : t.move with
  | request snapshot trigger => exact request_calls hm s
  | reissue id =>
    obtain ⟨deeds, hcall, hspends, hbegun⟩ := launchCall_eq t.env (readyFor true s id) id
    have hmove : s.reissue t.env id = (readyFor true s id).launchLatest t.env id := rfl
    have hready := amid_readyFor true s id
    refine ⟨deeds, fun n => ?_, ?_, fun hf =>
      ((hbegun (hready.formed hf)).after hready).unjudged (by simp [hm]) (.nil s) nofun⟩
    · simp only [Turn.calls, Turn.apply, hm, hmove, hcall (n + 1), Option.bind_eq_bind,
        Option.bind_some]
    · simp only [Turn.attempts, Turn.apply, hm, hmove]
      exact (quiet_readyFor true s id).asks.before hspends.toBounded
  | tick =>
    obtain ⟨deeds, hcall, hspends, hbegun⟩ := eachCall_eq true t.env (s.expired t.now) s
    have hmove : s.fireDue t.env t.now = attemptEach true t.env s (s.expired t.now) :=
      launchEach_eq ..
    refine ⟨deeds, fun n => ?_, ?_, fun hf =>
      (hbegun hf).unjudged (by simp [hm]) (.nil s) nofun⟩
    · simp only [Turn.calls, Turn.apply, hm, hmove, hcall (n + 1), Option.bind_eq_bind,
        Option.bind_some]
    · simp only [Turn.attempts, Turn.apply, hm, hmove]
      exact hspends.toBounded
  | complete completion =>
    obtain ⟨tag, outcome⟩ := completion
    cases tag with
    | trace id token =>
      refine ⟨[], fun n => by simp only [Turn.calls, hm], ?_, fun _ => begunUnknown_nil s t⟩
      rw [attempts_unvouched hm rfl, Turn.apply, hm]
      exact (asks_finishTrace s id token outcome).bounded
    | probe interpreter => exact probe_calls hm s
    | install interpreter id => exact install_calls hm s
  | install id =>
    have hattempts : t.attempts s = [] := by simp only [Turn.attempts, hm]
    refine ⟨asksBetween s (t.apply s), fun n => by simp only [Turn.calls, hm], ?_,
      fun _ => (begunAmid_asksBetween s _ _).unjudged (by simp [hm]) (.nil s) nofun⟩
    rw [hattempts, Turn.apply, hm]
    exact bounded_requestInstall t.env s id
  | close id =>
    have hattempts : t.attempts s = [] := by simp only [Turn.attempts, hm]
    refine ⟨[], fun n => by simp only [Turn.calls, hm], ?_, fun _ => begunUnknown_nil s t⟩
    rw [hattempts, Turn.apply, hm]
    exact (asks_close t.env s id).bounded

def isTraceOf (d : DocumentId) : LaunchTag → Bool
  | .trace id _ => id = d
  | _ => false

/-- The runs of a document that are asked for. -/
def tracesOf (d : DocumentId) (es : List Event) : Nat :=
  (es.filterMap asked?).countP (isTraceOf d)

/-- The acts that ask for a run of the document, or would have. -/
def tries (d : DocumentId) : Act → Bool
  | .start id .. | .fail id .. => id = d
  | _ => false

theorem tracesOf_append (d : DocumentId) (es es' : List Event) :
    tracesOf d (es ++ es') = tracesOf d es + tracesOf d es' := by
  rw [tracesOf, List.filterMap_append, List.countP_append]
  rfl

theorem tracesOf_effects (d : DocumentId) (es : List Event) :
    tracesOf d (effects es) = tracesOf d es := by
  rw [tracesOf, filterMap_effects (fun _ => rfl), tracesOf]

theorem tracesOf_prepare (d : DocumentId) (env : Surroundings) (options : Options)
    (snapshot : Snapshot) (scratch : Option Path) (asked : Nat) :
    tracesOf d (prepare env options snapshot scratch asked).events = 0 := by
  rw [tracesOf, filterMap_prepare fun e he => by cases he <;> rfl]
  rfl

theorem tracesOf_does (h : Does s a s') (d : DocumentId) :
    tracesOf d a.effects ≤ [a].countP (tries d) := by
  cases h with
  | start hs ha hr hv hp =>
    subst hp
    rw [Act.effects, tracesOf_append, tracesOf_prepare]
    simp [tracesOf, asked?, isTraceOf, tries, List.countP_cons]
  | miscopy hs ha hr hv hp =>
    subst hp
    rw [Act.effects, tracesOf_prepare]
    exact Nat.zero_le _
  | refuse hs ha hr hv hp =>
    subst hp
    rw [Act.effects, tracesOf_append, tracesOf_prepare]
    simp [tracesOf, asked?, isTraceOf, tries, List.countP_cons]
  | @close id slot =>
    have hnone : (((slot.active.bind (·.process)).toList.map Event.killed ++
        slot.scratch.toList.map Event.scratchRemoved).filterMap asked?) = [] := by
      simp [List.filterMap_eq_nil_iff, asked?]
    rw [tracesOf, Act.effects, hnone]
    exact Nat.zero_le _
  | _ => simp [tracesOf, Act.effects, List.filterMap_cons, asked?, isTraceOf]

theorem tracesOf_acts (h : Acts s l s') (d : DocumentId) :
    tracesOf d (l.flatMap Act.effects) ≤ l.countP (tries d) := by
  induction h with
  | nil => exact Nat.zero_le _
  | @cons _ _ _ a l first rest ih =>
    have hfirst := tracesOf_does first d
    rw [List.flatMap_cons, tracesOf_append, List.countP_cons]
    rw [List.countP_cons, List.countP_nil] at hfirst
    omega

theorem countP_about (d : DocumentId) (l : List Act) :
    (about d l).countP (tries d) = l.countP (tries d) := by
  rw [about, List.countP_filter]
  refine List.countP_congr fun a _ => ?_
  cases a <;> simp [tries, Act.subject]

/-- An attempt for a document asks for one run. -/
theorem Course.tries_le (h : Course s t d l) : l.countP (tries d) ≤ 1 := by
  have hlaunch : ∀ {b e}, Begins d b → Ends d e → [b, e].countP (tries d) ≤ 1 := by
    intro b e hb he
    cases hb <;> cases he <;> simp [tries]
  cases h with
  | requested hm ht hd hb he | reissued hm hb he | fired hm hx ha hb he =>
    rw [List.countP_cons_of_neg (by simp [tries])]
    exact hlaunch hb he
  | woken hm hv hs hg ha hb he => exact hlaunch hb he
  | installing hm ha => cases ha <;> simp [tries]
  | edited | accepted | closed | aside => simp [tries]

theorem tracesOf_did (hf : Formed s) (t : Turn) (d : DocumentId) : tracesOf d (t.did s) ≤ 1 := by
  obtain ⟨l, hl⟩ := turn_unfolds hf t
  rw [← tracesOf_effects, hl.did]
  refine Nat.le_trans (tracesOf_acts hl.acts d) ?_
  rw [← countP_about]
  exact (hl.course hf d).tries_le

/-- The states of a scheduler that is moved by turns. Between turns its notices are read, its events
are carried out, and its owner writes to its log. -/
inductive Reachable : Scheduler → Prop where
  | new (availability : Availability) (options : Options) : Reachable (.new availability options)
  | turn {s : Scheduler} (t : Turn) : Reachable s → Reachable (t.apply s)
  | read {s : Scheduler} : Reachable s → Reachable s.takeNotices.1
  | carried {s : Scheduler} : Reachable s → Reachable s.takeEvents.1
  | logged {s : Scheduler} (line : Log.Line) : Reachable s → Reachable (s.emit (.logged line))

theorem formed_turn (hf : Formed s) (t : Turn) : Formed (t.apply s) := by
  obtain ⟨l, hl⟩ := turn_unfolds hf t
  exact hf.acts hl.acts

theorem Reachable.formed (h : Reachable s) : Formed s := by
  induction h with
  | new availability options => exact formed_new availability options
  | turn t _ ih => exact formed_turn ih t
  | read _ ih | carried _ ih | logged _ _ ih => exact ih.congr rfl rfl

theorem Reachable.play (h : Reachable s) (turns : List Turn) : Reachable (play s turns) := by
  induction turns generalizing s with
  | nil => exact h
  | cons t turns ih => exact ih (h.turn t)

/-- Every turn ends, for every state and whatever is refused: the circle of calls is closed when they
nest four deep. A turn asks for one probe at most and for a run only where the tracer is known to be
there, and in every state that can be reached it asks for one run of each document at most. -/
theorem turn_ends (t : Turn) :
    (∀ s : Scheduler, ∃ deeds : List Deed,
      (∀ n, t.calls (n + 4) s = some (t.apply s, deeds)) ∧
      deeds.filterMap Deed.tag? = (t.did s).filterMap asked? ∧
      deeds.filterMap Deed.attempted? = t.attempts s ∧
      deeds.countP Deed.isProbe ≤ 1 ∧
      ∀ id token k, .ask (.trace id token) k ∈ deeds → k = .available) ∧
    ∀ s, Reachable s → ∀ d, tracesOf d (t.did s) ≤ 1 := by
  constructor
  · intro s
    obtain ⟨deeds, hcalls, hbounded, -⟩ := t.calls_eq s
    obtain ⟨es, he, hes⟩ := hbounded.asks.asked
    refine ⟨deeds, hcalls, ?_, hbounded.attempted, hbounded.once, hbounded.available⟩
    rw [Turn.did, he, List.drop_left, hes]
  · intro s hs d
    exact tracesOf_did hs.formed t d

/-- Two documents have been edited. -/
def editedTwo : List Turn :=
  [⟨obliging, 0, .request ⟨"d", "one", none⟩ .change⟩,
    ⟨obliging, 1, .request ⟨"e", "two", none⟩ .change⟩]

/-- Two documents wait for the end of a probe, which wakes them both; the run of the first is
refused, which makes the verdict doubtful, and a second probe is asked for by the other. -/
def wokenTwo : List Turn :=
  editedTwo ++ [⟨obliging, 400, .tick⟩]

/-- The probe finds the tracer, and then nothing can be started. -/
def wakesRefused : Turn :=
  ⟨refusing, 500, .complete ⟨.probe "python", .exited (some 0) "" ""⟩⟩

theorem turn_ends_wakesRefused :
    Reachable (play (.new [] plainOptions) wokenTwo) ∧
      (∃ before, (wakesRefused.calls 4 (play (.new [] plainOptions) wokenTwo)).map (·.2) =
        some [.attempt "d" (.notRun .launchFailed), .ask (.trace "d" 1) .available,
          .attempt "e" (.notRun .unavailable), .beginProbe "python" before,
          .ask (.probe "python") .probing]) ∧
      tracesOf "d" (wakesRefused.did (play (.new [] plainOptions) wokenTwo)) ≤ 1 :=
  have h : Reachable (play (.new [] plainOptions) wokenTwo) := (Reachable.new _ _).play _
  ⟨h, ⟨(play (.new [] plainOptions) (wokenTwo ++ [wakesRefused])).events.take 7,
    by decide +kernel⟩, (turn_ends wakesRefused).2 _ h "d"⟩

end TraceView.Proofs.Run
