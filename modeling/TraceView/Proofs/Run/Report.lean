import TraceView.Proofs.Run.Standing
import TraceView.Proofs.Run.Timers
import TraceView.Proofs.Run.Trail

/-!
# The decision tells the state

Whoever asks for a run sees no more than the decision. It is the state that was reached: a run that
started, a probe that is awaited, a tracer that is missing, or a failure that was delivered.
-/
namespace TraceView.Proofs.Run

open TraceView.Run

/-- What a decision about a document says of the state that was reached and of what was told.
`earlier` are the tokens given out before, `raised` that the document has been prompted. -/
inductive Reported (earlier : List Token) (raised : Prop) (snapshot : Snapshot)
    (told : List Notice) (s' : Scheduler) : Decision → Prop where
  | launched {token} (hfresh : ∀ k ∈ earlier, k < token)
      (hphase : s'.phase snapshot.document = .running token)
      (htold : told = [.runStarted snapshot.document token]) :
      Reported earlier raised snapshot told s' (.launched token)
  | awaiting (hphase : s'.phase snapshot.document = .awaitingAvailability)
      (hst : verdict s' = .probing) (htold : told = []) :
      Reported earlier raised snapshot told s' .awaitingAvailability
  | unavailable (hst : verdict s' = .unavailable)
      (hstill : isRunning s' snapshot.document = false) (hraised : raised) :
      Reported earlier raised snapshot told s' (.notRun .unavailable)
  | failed {token delivery} (hphase : s'.phase snapshot.document = .idle)
      (htold : told = [.delivered snapshot.document token delivery])
      (hkind : delivery.kind = .infrastructure) (hsource : delivery.source = snapshot.text) :
      Reported earlier raised snapshot told s' (.notRun .launchFailed)

/-- A turn kills the run of a document, if there is one, and stops its timer. -/
structure GivesUp (s : Scheduler) (t : Turn) (d : DocumentId) : Prop where
  killed : ∀ run, activeOf s d = some run →
    ∃ process, run.process = some process ∧ .killed process ∈ t.did s
  calm : dueOf (t.apply s) d = none

/-- The verdict is that the tracer is missing. -/
def Missing (v : Scheduler × Turn) : Prop := verdict v.1 = .unavailable

instance : DecidablePred Missing := fun v =>
  inferInstanceAs (Decidable (verdict v.1 = .unavailable))

variable {s s' mid : Scheduler} {l : List Act} {decision : Decision} {snapshot : Snapshot}
  {slot : Slot} {d : DocumentId} {earlier : List Token} {raised : Prop}
  {past : List (Scheduler × Turn)} {t : Turn}

theorem phase_bare (hs : bare s d = some slot) : s.phase d =
    match slot.active, slot.due, slot.gatedOn with
    | some run, _, _ => .running run.token
    | none, some due, _ => .pendingDebounce due
    | none, none, some _ => .awaitingAvailability
    | none, none, none => .idle := by
  obtain ⟨slot', hs', rfl⟩ := Option.map_eq_some_iff.mp hs
  rw [Scheduler.phase, hs']
  rfl

theorem local_between {a : Act} {x y : Option Slot} (h : Does s a s') (hd : a.subject = some d)
    (hx : bare s d = x) (hy : bare s' d = y) : Local s.interpreter x a y := by
  rw [← hx, ← hy]
  exact local_does h hd

theorem bare_ask (h : Does s (.ask snapshot none) s') : bare s' snapshot.document =
    some { (bare s snapshot.document).getD .empty with request := some snapshot, due := none } := by
  generalize hx : bare s snapshot.document = x
  generalize hy : bare s' snapshot.document = y
  cases local_between h rfl hx hy with
  | ask => rfl
  | installs hi => cases hi

theorem bare_park (h : Does s (.park d) s') (hs : bare s d = some slot) :
    bare s' d = some { slot with gatedOn := some s.interpreter } := by
  generalize hy : bare s' d = y
  cases local_between h rfl hs hy with
  | park => rfl
  | installs hi => cases hi

/-- What runs after a start has the token of the start. -/
theorem phase_start {token : Token} {process : Nat} {spec : LaunchSpec}
    {copies : List Event} (h : Does s (.start d token process spec copies) s')
    (hs : bare s d = some slot) : s'.phase d = .running token := by
  generalize hy : bare s' d = y
  cases local_between h rfl hs hy with
  | start => exact phase_bare hy
  | installs hi => cases hi

/-- The slot of a document for which a run is asked and that has none. -/
structure Ready (slot : Slot) (snapshot : Snapshot) : Prop where
  request : slot.request = some snapshot
  due : slot.due = none
  active : slot.active = none

theorem Ready.not_running (hr : Ready slot snapshot) {p : Option Path}
    (hs : bare s d = some { slot with gatedOn := p }) : isRunning s d = false := by
  rw [isRunning_eq, activeOf, hs, Option.bind_some, hr.active]
  rfl

theorem Ready.awaiting (hr : Ready slot snapshot) {p : Path}
    (hs : bare s d = some { slot with gatedOn := some p }) :
    s.phase d = .awaitingAvailability := by
  rw [phase_bare hs]
  simp only [hr.active, hr.due]

theorem Ready.failed {token : Token} {delivery : Delivery} {tried : List Event}
    (hr : Ready slot snapshot) (h : Does s (.fail d token delivery tried) s')
    (hs : bare s d = some slot) : s'.phase d = .idle ∧ delivery.source = snapshot.text := by
  generalize hy : bare s' d = y
  cases local_between h rfl hs hy with
  | fail ha hrequest hsource =>
    cases hr.request.symm.trans hrequest
    refine ⟨?_, hsource⟩
    rw [phase_bare hy]
    simp only [hr.active, hr.due]
  | installs hi => cases hi

theorem Attempt.reported (hf : Formed s) (h : Attempt s snapshot.document l decision s')
    (hs : bare s snapshot.document = some slot) (hr : Ready slot snapshot)
    (hearlier : ∀ k ∈ earlier, k ≤ s.lastToken)
    (hraised : isPrompted s' snapshot.document = true → raised) :
    Reported earlier raised snapshot (l.flatMap Act.notices) s' decision := by
  cases h with
  | started h =>
    have hnew := (Acts.single h).start_fresh (List.mem_singleton_self _)
    exact .launched (fun k hk => Nat.lt_of_le_of_lt (hearlier k hk) hnew) (phase_start h hs) rfl
  | failed h =>
    have hkind := (Acts.single h).fail_kind (List.mem_singleton_self _)
    obtain ⟨hphase, hsource⟩ := hr.failed h hs
    exact .failed hphase rfl hkind hsource
  | unavailable hu hp hl =>
    have hmissed := (Attempt.unavailable hu hp hl).missed hf
    have hpark := bare_park hp hs
    rw [← hl.frame.2] at hpark
    exact .unavailable (hl.same_verdict.trans ((verdict_park hp).trans hu))
      (hr.not_running hpark) (hraised hmissed)
  | probing hu hp =>
    exact .awaiting (hr.awaiting (bare_park hp hs)) ((verdict_park hp).trans hu) rfl
  | probed hp h =>
    have hpark := bare_park hp hs
    rw [← bare_does h (by simp [Act.subject])] at hpark
    exact .awaiting (hr.awaiting hpark) (verdict_probe h).2 rfl
  | unprobed hp h hl =>
    have hmissed := (Attempt.unprobed hp h hl).missed hf
    have hpark := bare_park hp hs
    rw [← bare_does h (by simp [Act.subject]), ← hl.frame.2] at hpark
    exact .unavailable (hl.same_verdict.trans (verdict_probeRefused h).2)
      (hr.not_running hpark) (hraised hmissed)

/-- Giving up a run kills its process and leaves the document without one. -/
theorem Begins.ready {a : Act} (hb : Begins d a) (h : Does s a s') (hs : bare s d = some slot)
    (hrequest : slot.request = some snapshot) (hdue : slot.due = none) :
    (∃ slot', bare s' d = some slot' ∧ Ready slot' snapshot) ∧
      ∀ run, slot.active = some run →
        ∃ process, run.process = some process ∧ .killed process ∈ a.effects := by
  generalize hy : bare s' d = y
  cases hb with
  | release =>
    cases local_between h rfl hs hy with
    | release ha =>
      refine ⟨⟨_, rfl, hrequest, hdue, ha⟩, fun run hrun => ?_⟩
      rw [ha] at hrun
      cases hrun
    | installs hi => cases hi
  | kill token process =>
    cases local_between h rfl hs hy with
    | kill ha hp =>
      refine ⟨⟨_, rfl, hrequest, hdue, rfl⟩, fun run hrun => ?_⟩
      rw [ha] at hrun
      cases hrun
      exact ⟨process, hp, List.mem_singleton_self _⟩
    | installs hi => cases hi

theorem Launch.calm (h : Launch s d l decision s') (hs : dueOf s d = none) : dueOf s' d = none := by
  obtain ⟨b, e, hb, he, habout⟩ := h.about
  have hlocals := locals_acts h.acts d
  rw [habout d, if_pos rfl] at hlocals
  obtain ⟨slot, slot', hx, hz, hran⟩ := hlocals.attempt hb he
  rw [dueOf_bare, hx] at hs
  rw [dueOf_bare, hz]
  exact hran.due.trans hs

/-- Asking for a run but for an edit ends in one of four ways, and the decision says in which. -/
theorem request_reported {availability : Availability} {options : Options} {trigger : Trigger}
    (h : Reaches (.new availability options) past s) (hm : t.move = .request snapshot trigger)
    (ht : trigger ≠ .change) :
    GivesUp s t snapshot.document ∧
      Reported (tokens past)
        (PromptedWhile (KeepsPrompt options.interpreter snapshot.document) snapshot.document
          (past ++ [(s, t)]))
        snapshot (t.told s) (t.apply s) (s.requestRun t.env snapshot trigger t.now).2 ∧
      (s.requestRun t.env snapshot trigger t.now).2 ≠ .notRun .noRequest := by
  have htracked := h.tracked
  have happly : t.apply s = (s.requestRun t.env snapshot trigger t.now).1 := by
    rw [Turn.apply, hm]
  obtain ⟨mid, l, hask, hl⟩ := requestRun_launches t.env htracked.formed snapshot ht t.now
  rw [← happly] at hl
  have hacts : Acts s (.ask snapshot none :: l) (t.apply s) := .cons hask hl.acts
  have hmid := bare_ask hask
  have hcalm := hl.calm (by rw [dueOf_bare, hmid]; rfl)
  obtain @⟨a, given, l, _, _, begins, first, rest⟩ := hl
  obtain ⟨⟨slot, hs, hready⟩, hkilled⟩ := begins.ready first hmid rfl rfl
  have htold : t.told s = l.flatMap Act.notices := by
    rw [hacts.told]
    cases begins <;> rfl
  have hearlier : ∀ k ∈ tokens past, k ≤ given.lastToken := fun k hk =>
    Nat.le_trans (htracked.tokens k hk)
      (Nat.le_trans (counts_does hask).2 (counts_does first).2)
  have hreported := rest.reported ((htracked.formed.does hask).does first) hs hready hearlier
    ((htracked.turn t).prompted snapshot.document)
  refine ⟨⟨fun run hrun => ?_, hcalm⟩, htold ▸ hreported, fun hno => ?_⟩
  · have hactive : activeOf s snapshot.document =
        ((bare s snapshot.document).getD .empty).active := by
      rw [activeOf]
      cases bare s snapshot.document <;> rfl
    obtain ⟨process, hp, hmem⟩ := hkilled run (hactive ▸ hrun)
    refine ⟨process, hp, (mem_effects.mp ?_).1⟩
    rw [hacts.did]
    exact List.mem_flatMap.mpr ⟨a, by simp, hmem⟩
  · rw [hno] at hreported
    cases hreported

/-- A document that runs is saved where nothing can be started and the verdict is doubtful. -/
theorem request_reported_unprobed :
    Reaches (.new (.withVerdict "python" true) plainOptions)
        (trail (.new (.withVerdict "python" true) plainOptions) doubtful)
        (play (.new (.withVerdict "python" true) plainOptions) doubtful) ∧
      unprobed.move = .request ⟨"d", "four", none⟩ .save ∧ Trigger.save ≠ .change ∧
      activeOf (play (.new (.withVerdict "python" true) plainOptions) doubtful) "d" =
        some ⟨1, "python", "one", .running, some 0⟩ ∧
      GivesUp (play (.new (.withVerdict "python" true) plainOptions) doubtful) unprobed "d" ∧
      PromptedWhile (KeepsPrompt "python" "d") "d"
        (trail (.new (.withVerdict "python" true) plainOptions) doubtful ++
          [(play (.new (.withVerdict "python" true) plainOptions) doubtful, unprobed)]) := by
  have hreaches := reaches_play (.new (.withVerdict "python" true) plainOptions) doubtful
  have ht : Trigger.save ≠ .change := nofun
  have hm : unprobed.move = .request ⟨"d", "four", none⟩ .save := rfl
  obtain ⟨hgives, hreported, -⟩ := request_reported hreaches hm ht
  have hd : ((play (.new (.withVerdict "python" true) plainOptions) doubtful).requestRun
      unprobed.env ⟨"d", "four", none⟩ .save unprobed.now).2 = .notRun .unavailable := by
    decide +kernel
  rw [hd] at hreported
  cases hreported with
  | unavailable hst hstill hraised =>
    exact ⟨hreaches, hm, ht, by decide +kernel, hgives, hraised⟩

/-- A document is prompted as no probe can be started. Then the late end of a run of another makes
the verdict doubtful. -/
def relapse : List Turn :=
  [ ⟨obliging, 0, .request ⟨"d", "one", none⟩ .save⟩,
    ⟨refusing, 1, .request ⟨"e", "two", none⟩ .save⟩,
    ⟨refusing, 2, .request ⟨"e", "two", none⟩ .save⟩,
    ⟨obliging, 3, .complete ⟨.trace "d" 1, .exited (some 1) "" "No module named tracer"⟩⟩ ]

/-- The document is saved again, and again no probe can be started. -/
def relapsed : Turn := ⟨refusing, 4, .request ⟨"e", "three", none⟩ .save⟩

/-- The verdict has come again, yet under it the document is not prompted. -/
theorem relapse_not_prompted :
    Reaches (.new (.withVerdict "python" true) plainOptions)
        (trail (.new (.withVerdict "python" true) plainOptions) relapse)
        (play (.new (.withVerdict "python" true) plainOptions) relapse) ∧
      ¬ Reported (tokens (trail (.new (.withVerdict "python" true) plainOptions) relapse))
        (PromptedWhile Missing "e"
          (trail (.new (.withVerdict "python" true) plainOptions) (relapse ++ [relapsed])))
        ⟨"e", "three", none⟩
        (relapsed.told (play (.new (.withVerdict "python" true) plainOptions) relapse))
        (relapsed.apply (play (.new (.withVerdict "python" true) plainOptions) relapse))
        ((play (.new (.withVerdict "python" true) plainOptions) relapse).requestRun relapsed.env
          ⟨"e", "three", none⟩ .save relapsed.now).2 := by
  have hd : ((play (.new (.withVerdict "python" true) plainOptions) relapse).requestRun
      relapsed.env ⟨"e", "three", none⟩ .save relapsed.now).2 = .notRun .unavailable := by
    decide +kernel
  refine ⟨reaches_play _ relapse, fun hreported => ?_⟩
  rw [hd] at hreported
  cases hreported with
  | unavailable hst hstill hraised => exact absurd hraised (by decide +kernel)

end TraceView.Proofs.Run
