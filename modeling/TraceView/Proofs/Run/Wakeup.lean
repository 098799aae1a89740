import TraceView.Proofs.Run.Request
import TraceView.Proofs.Run.Waiting

/-!
# No lost wake-up

A document whose attempt had to wait is at its gate with a probe in flight, until the probe
completes. A verdict settles all who wait for it in the turn that brings it, whatever is refused in
that turn: who wakes up may find the verdict gone again, because the start of another was refused.
-/
namespace TraceView.Proofs.Run

open TraceView.Run
open TraceView.Proofs.KeyOrder

/-- The text a document last asked to have traced, after a turn. -/
def Turn.asks (d : DocumentId) (asked : Option String) (t : Turn) : Option String :=
  match t.move with
  | .request snapshot _ => if snapshot.document = d then some snapshot.text else asked
  | .close id => if id = d then none else asked
  | _ => asked

/-- The text a document last asked to have traced since it was opened. -/
def lastAsked (past : List Turn) (d : DocumentId) : Option String :=
  past.foldl (Turn.asks d) none

/-- Whether an open document waits for an interpreter. -/
def Gated (s : Scheduler) (d : DocumentId) (interpreter : Path) : Prop :=
  ∃ slot, s.slot? d = some slot ∧ slot.isGatedOn interpreter = true

def deliveryTo (d : DocumentId) : Notice → Option Delivery
  | .delivered id _ delivery => if id = d then some delivery else none
  | _ => none

/-- What is delivered to a document in a turn. -/
def Turn.deliveries (t : Turn) (s : Scheduler) (d : DocumentId) : List Delivery :=
  (t.told s).filterMap (deliveryTo d)

/-- A turn that settles who waits for an interpreter. -/
inductive Settles (interpreter : Path) : Move → Prop where
  | probe {outcome} : Settles interpreter (.complete ⟨.probe interpreter, outcome⟩)
  | install {id outcome} (ho : outcome.success = true) :
      Settles interpreter (.complete ⟨.install interpreter id, outcome⟩)

/-- What becomes of a document that waits, in the turn that settles it. -/
inductive Settled (start : Scheduler) (past : List Turn) (t : Turn) (d : DocumentId) : Prop where
  | running {slot run process spec} (hs : (play start (past ++ [t])).slot? d = some slot)
      (ha : slot.active = some run) (hl : slot.latest = some run.token)
      (hsource : lastAsked past d = some run.source)
      (hfresh : (play start past).lastToken < run.token)
      (hp : run.process = some process)
      (hlaunched : .launched process spec (.trace d run.token) ∈ t.did (play start past))
      (hi : spec.stdin = some run.source)
      (hg : slot.gatedOn = none) (hd : t.deliveries (play start past) d = [])
  | failed {slot delivery} (hs : (play start (past ++ [t])).slot? d = some slot)
      (ha : slot.active = none) (hg : slot.gatedOn = none)
      (hd : t.deliveries (play start past) d = [delivery])
      (hk : delivery.kind = .infrastructure)
  | prompted {message} (hg : gateOf (play start (past ++ [t])) d = some start.interpreter)
      (hst : verdict (play start (past ++ [t])) = .unavailable)
      (hp : .installPrompt d start.interpreter message ∈ t.told (play start past))
      (hd : t.deliveries (play start past) d = [])
  | parked (hg : gateOf (play start (past ++ [t])) d = some start.interpreter)
      (hst : verdict (play start (past ++ [t])) = .probing)
      (hp : InFlight start (past ++ [t]) (.probe start.interpreter))
      (hd : t.deliveries (play start past) d = [])

/-- Turns in which a document is neither attempted nor closed and no probe completes. -/
def Waits (start : Scheduler) (d : DocumentId) (past later : List Turn) : Prop :=
  ∀ mid u rest, later = mid ++ u :: rest →
    d ∉ u.attempted (play start (past ++ mid)) ∧ u.move ≠ .close d ∧
      isCompletion (.probe start.interpreter) u = false

/-- Who waits has a probe in flight to wait for, and a turn that settles who waits leaves nobody
behind. -/
structure NoneLost (start : Scheduler) (turns : List Turn) : Prop where
  awaits : ∀ past t later d, turns = past ++ t :: later →
    (d, .awaitingAvailability) ∈ t.attempts (play start past) →
    Waits start d (past ++ [t]) later →
    gateOf (play start turns) d = some start.interpreter ∧
      InFlight start turns (.probe start.interpreter)
  settles : ∀ past t later interpreter, turns = past ++ t :: later →
    Settles interpreter t.move →
    (∀ d, Gated (play start past) d interpreter → Settled start past t d) ∧
      ∀ d, Gated (play start (past ++ [t])) d interpreter →
        (play start (past ++ [t])).availability.status interpreter ≠ .available

variable {s s' : Scheduler} {t : Turn} {d : DocumentId} {l : List Act} {past : List Turn}

/-- The text of the request in a slot. -/
def requestText (x : Option Slot) : Option String := (x.bind (·.request)).map (·.text)

theorem asks_requests (asked : Option Snapshot) (t : Turn) :
    t.asks d (asked.map (·.text)) = (t.requests d asked).map (·.text) := by
  rw [Turn.asks, Turn.requests]
  cases t.move with
  | request snapshot => by_cases hd : snapshot.document = d <;> simp [hd]
  | close id => by_cases hd : id = d <;> simp [hd]
  | _ => rfl

theorem lastAsked_eq (past : List Turn) (d : DocumentId) :
    lastAsked past d = (lastRequest past d).map (·.text) := by
  induction past using List.reverseRecOn with
  | nil => rfl
  | append_singleton past t ih =>
    simp only [lastAsked, lastRequest, List.foldl_append, List.foldl_cons, List.foldl_nil] at ih ⊢
    rw [ih, asks_requests]

theorem lastAsked_play (availability : Availability) (options : Options) (past : List Turn)
    (d : DocumentId) :
    requestText (bare (play (.new availability options) past) d) = lastAsked past d := by
  rw [lastAsked_eq, ← lastRequest_play availability options past d]
  rfl

def Act.delivery? : Act → Option Delivery
  | .fail _ _ delivery _ | .accept _ _ delivery => some delivery
  | _ => none

theorem deliveries_act (a : Act) (d : DocumentId) :
    a.notices.filterMap (deliveryTo d) = (about d [a]).filterMap Act.delivery? := by
  cases a with
  | fail id token delivery tried | accept id token delivery =>
    by_cases hd : id = d <;>
      simp [Act.notices, deliveryTo, about_cons, Act.subject, Act.delivery?, hd]
  | _ =>
    rw [about_cons]
    split <;> rfl

theorem Plays.deliveries (h : Plays s t l (t.apply s)) (d : DocumentId) :
    t.deliveries s d = (about d l).filterMap Act.delivery? := by
  rw [Turn.deliveries, h.told]
  exact filterMap_about fun a _ => deliveries_act a d

theorem Begins.delivers_nothing {b : Act} (h : Begins d b) : b.delivery? = none := by
  cases h <;> rfl

/-- A launch that fails is an infrastructure error. -/
theorem Acts.fail_kind (h : Acts s l s') {token : Token} {delivery : Delivery}
    {tried : List Event} (hm : .fail d token delivery tried ∈ l) :
    delivery.kind = .infrastructure := by
  obtain ⟨u, u', pre, post, -, -, hdoes, -⟩ := h.split hm
  cases hdoes with
  | miscopy hs ha hr hv hp hno hd | refuse hs ha hr hv hp hno hd => rw [hd]

theorem Acts.start_fresh (h : Acts s l s') {token : Token} {process : Nat} {spec : LaunchSpec}
    {copies : List Event} (hm : .start d token process spec copies ∈ l) :
    s.lastToken < token := by
  obtain ⟨u, u', pre, post, -, hpre, hdoes, -⟩ := h.split hm
  have hle := (counts_acts hpre).2
  cases hdoes
  exact Nat.lt_succ_of_le hle

/-- A verdict prompts those who wait for it or makes an attempt for each of them. -/
inductive Answer (interpreter : Path) (s : Scheduler) (t : Turn) : List Act → Scheduler → Prop where
  | denied {mid l outcome} {s' : Scheduler}
      (hm : t.move = .complete ⟨.probe interpreter, outcome⟩)
      (h : Does s (.judge interpreter false) mid)
      (hl : Prompting mid interpreter (mid.waiting interpreter) l s') :
      Answer interpreter s t (.judge interpreter false :: l) s'
  | granted {completion mid a l} {s' : Scheduler} (ha : Vouches completion interpreter a)
      (h : Does s a mid)
      (hr : Round false mid (mid.waiting interpreter) l (t.attempts s) s') :
      Answer interpreter s t (a :: l) s'

theorem Settles.answer {interpreter : Path} (ht : Settles interpreter t.move)
    (h : Plays s t l s') : Answer interpreter s t l s' := by
  cases h with
  | @judged p outcome mid l s' hm ho h hl =>
    rw [hm] at ht
    cases ht
    exact .denied hm h hl
  | @woken completion p a l s' hm hv ha h hr =>
    have hp : p = interpreter := by
      rw [hm] at ht
      cases ht with
      | @probe outcome =>
        simp only [vouched?, Option.ite_none_right_eq_some, Option.some.injEq] at hv
        exact hv.2.symm
      | install ho =>
        simp only [vouched?, ho, if_true, Option.some.injEq] at hv
        exact hv.symm
    subst hp
    exact .granted ha h hr
  | uninstalled hm ho =>
    rw [hm] at ht
    cases ht with
    | install ho' =>
      rw [ho] at ho'
      cases ho'
  | edited hm | requested hm | reissued hm | fired hm | accepted hm | installing hm | closed hm =>
    rw [hm] at ht
    cases ht
  | still hq =>
    cases hq with
    | reissue hm | trace hm | install hm | close hm =>
      rw [hm] at ht
      cases ht

theorem slot?_judge {interpreter : Path} {b : Bool} (h : Does s (.judge interpreter b) s')
    (k : DocumentId) : s'.slot? k = (s.slot? k).map (renew interpreter) := by
  cases h
  exact slot?_allowPrompts _ interpreter k

theorem verdict_judge {interpreter : Path} {b : Bool} (h : Does s (.judge interpreter b) s')
    (hi : interpreter = s.interpreter) :
    verdict s' = if b then .available else .unavailable := by
  subst hi
  cases h
  exact status_finishProbe s.availability s.interpreter b

theorem Vouches.slot? {completion : Completion} {interpreter : Path} {a : Act}
    (ha : Vouches completion interpreter a) (h : Does s a s') (k : DocumentId) :
    s'.slot? k = (s.slot? k).map (renew interpreter) := by
  cases ha with
  | judge => exact slot?_judge h k
  | installed =>
    cases h
    exact slot?_allowPrompts _ interpreter k

/-- Those who wait for a new verdict may be prompted again. -/
theorem renewed_of_gated {interpreter : Path} (hg : Gated s d interpreter)
    (h : s'.slot? d = (s.slot? d).map (renew interpreter)) :
    Gated s' d interpreter ∧ isPrompted s' d = false := by
  obtain ⟨slot, hs, hgate⟩ := hg
  rw [hs, Option.map_some, renew, if_pos hgate] at h
  refine ⟨⟨_, h, hgate⟩, ?_⟩
  rw [isPrompted, h]
  rfl

theorem gateOf_of_gated (hf : Formed s) {interpreter : Path} (hg : Gated s d interpreter) :
    gateOf s d = some s.interpreter ∧ s.interpreter.same interpreter = true := by
  obtain ⟨slot, hs, hgate⟩ := hg
  rw [Slot.isGatedOn] at hgate
  cases hp : slot.gatedOn with
  | none => simp [hp] at hgate
  | some p =>
    have hi := (hf.sound hs).gated p hp
    simp only [hp] at hgate
    subst hi
    exact ⟨by rw [gateOf, hs]; exact hp, hgate⟩

/-- What a settling turn makes of a document that waits, its past left out. -/
inductive Comes (s : Scheduler) (t : Turn) (d : DocumentId) : Prop where
  | started {slot process spec token text} (hs : bare (t.apply s) d = some slot)
      (ha : slot.active = some ((TraceRun.new token s.interpreter text).start process))
      (hg : slot.gatedOn = none) (htext : requestText (bare s d) = some text)
      (hfresh : s.lastToken < token)
      (hlaunched : .launched process spec (.trace d token) ∈ t.did s)
      (hi : spec.stdin = some text) (hd : t.deliveries s d = [])
  | failed {slot delivery} (hs : bare (t.apply s) d = some slot) (ha : slot.active = none)
      (hg : slot.gatedOn = none) (hd : t.deliveries s d = [delivery])
      (hk : delivery.kind = .infrastructure)
  | prompted {message} (hg : gateOf (t.apply s) d = some s.interpreter)
      (hst : verdict (t.apply s) = .unavailable)
      (hp : .installPrompt d s.interpreter message ∈ t.told s) (hd : t.deliveries s d = [])
  | parked (hg : gateOf (t.apply s) d = some s.interpreter)
      (hst : verdict (t.apply s) = .probing) (hd : t.deliveries s d = [])

theorem told_prompt (h : Plays s t l (t.apply s)) {interpreter : Path} {message : String}
    (hm : .prompt d interpreter message ∈ l) :
    .installPrompt d interpreter message ∈ t.told s :=
  h.mem_told hm (List.mem_singleton_self _)

/-- An attempt without more comes to a run, to a failure or to waiting. -/
theorem comes_of_attempt (hf : Formed s) (h : Plays s t l (t.apply s)) {b e : Act}
    (hb : Begins d b) (he : Ends d e) (habout : about d l = [b, e])
    (hparked : e = .park d → gateOf (t.apply s) d = some s.interpreter →
      t.deliveries s d = [] → Comes s t d) : Comes s t d := by
  have hm : e ∈ l := (mem_about.mp (by rw [habout]; simp : e ∈ about d l)).1
  have hdeliveries : t.deliveries s d = e.delivery?.toList := by
    rw [h.deliveries, habout, List.filterMap_cons_none hb.delivers_nothing]
    cases e <;> rfl
  have hlocals := locals_acts h.acts d
  rw [habout] at hlocals
  obtain ⟨slot, slot', hx, hz, hran⟩ := hlocals.attempt hb he
  cases hran with
  | @started snapshot token process spec copies ended scratch hr hi =>
    refine .started hz rfl rfl ?_ (h.acts.start_fresh hm) ?_ hi hdeliveries
    · rw [requestText, hx, Option.bind_some, hr]
      rfl
    · exact (h.launched_iff d process spec token).mpr ⟨copies, mem_about.mpr ⟨hm, rfl⟩⟩
  | failed hr hd => exact .failed hz rfl rfl hdeliveries (h.acts.fail_kind hm)
  | parked => exact hparked rfl (gateOf_park hf h hm) hdeliveries

theorem Answer.comes {interpreter : Path} (hf : Formed s) (h : Plays s t l (t.apply s))
    (ha : Answer interpreter s t l (t.apply s)) (hg : Gated s d interpreter)
    (hi : ∀ outcome, t.move = .complete ⟨.probe interpreter, outcome⟩ →
      interpreter = s.interpreter) : Comes s t d := by
  generalize hs' : t.apply s = s' at ha
  cases ha with
  | @denied mid l outcome _ hm hj hl =>
    have hown := hi outcome hm
    obtain ⟨hmid, hfresh⟩ := renewed_of_gated hg (slot?_judge hj d)
    have habout : about d (.judge interpreter false :: l) = [] := by
      rw [about_other (by simp [Act.subject]), hl.about]
    have hwaits : d ∈ mid.waiting interpreter := (mem_waiting (hf.does hj) interpreter d).mpr hmid
    have hprompt := mem_prompt hl.acts hl.attempting hfresh (hl.done d hwaits)
    have hst := hl.same_verdict.trans (verdict_judge hj hown)
    subst hs'
    refine .prompted ?_ hst (told_prompt h (List.mem_cons_of_mem _ (hown ▸ hprompt))) ?_
    · rw [gateOf_bare, bare_about h.acts habout, ← gateOf_bare]
      exact (gateOf_of_gated hf hg).1
    · rw [h.deliveries, habout]
      rfl
  | @granted completion mid a l _ ha hj hr =>
    have hf' := hf.does hj
    obtain ⟨hmid, hfresh⟩ := renewed_of_gated hg (ha.slot? hj d)
    have hwaits : d ∈ mid.waiting interpreter := (mem_waiting hf' interpreter d).mpr hmid
    obtain ⟨b, e, hb, he, habout⟩ := hr.about_mem (nodup_waiting hf' interpreter) hwaits
    have habout' : about d (a :: l) = [b, e] := by
      rw [about_other (by simp [ha.subject]), habout]
      rfl
    subst hs'
    refine comes_of_attempt hf h hb he habout' fun hpark hgate hnone => ?_
    have hmem : .park d ∈ l := (mem_about.mp (by rw [habout, hpark]; simp)).1
    cases hr.parks hf' hmem with
    | probing hst => exact .parked hgate hst hnone
    | prompted hst hp =>
      have hprompt := mem_prompt hr.acts hr.attempting hfresh hp
      rw [interpreter_does hj] at hprompt
      exact .prompted hgate hst (told_prompt h (List.mem_cons_of_mem _ hprompt)) hnone

/-- Nobody is made to wait by a verdict. -/
theorem Answer.gated_before {interpreter : Path} (hf : Formed s)
    (ha : Answer interpreter s t l s') (hg : Gated s' d interpreter) : Gated s d interpreter := by
  obtain ⟨slot, hs, hgate⟩ := hg
  cases ha with
  | denied hm hj hl =>
    refine gated_of_bare (bare_about (.cons hj hl.acts) ?_).symm hs hgate
    rw [about_other (by simp [Act.subject]), hl.about]
  | @granted completion mid a l _ ha hj hr =>
    have hsubject : a.subject ≠ some d := by simp [ha.subject]
    by_cases hd : d ∈ mid.waiting interpreter
    · obtain ⟨slot', hs', hgate'⟩ := (mem_waiting (hf.does hj) interpreter d).mp hd
      exact gated_of_bare (bare_does hj hsubject).symm hs' hgate'
    · refine gated_of_bare (bare_about (.cons hj hr.acts) ?_).symm hs hgate
      rw [about_other hsubject, hr.about_not_mem hd]

theorem Comes.unavailable (hc : Comes s t d) {p : Path} (hg : gateOf (t.apply s) d = some p) :
    verdict (t.apply s) ≠ .available := by
  cases hc with
  | started hs ha hgate | failed hs ha hgate =>
    rw [gateOf_bare, hs, Option.bind_some, hgate] at hg
    cases hg
  | prompted hgate hst | parked hgate hst =>
    rw [hst]
    simp

section Runs

variable {start : Scheduler}

theorem Comes.settled (hf : Formed start) (hb : Balanced start (past ++ [t]))
    (hlast : requestText (bare (play start past) d) = lastAsked past d)
    (hc : Comes (play start past) t d) : Settled start past t d := by
  have hplay : play start (past ++ [t]) = t.apply (play start past) := by simp
  have hf' := formed_play hf (past ++ [t])
  have hown := interpreter_play hf past
  cases hc with
  | @started slot process spec token text hs ha hg htext hfresh hlaunched hi hd =>
    rw [← hplay, bare] at hs
    obtain ⟨slot', hs', rfl⟩ := Option.map_eq_some_iff.mp hs
    have hlatest := (hf'.sound hs').latest
    rw [show slot'.active = _ from ha] at hlatest
    exact .running hs' ha hlatest (hlast.symm.trans htext) hfresh rfl hlaunched hi hg hd
  | @failed slot delivery hs ha hg hd hk =>
    rw [← hplay, bare] at hs
    obtain ⟨slot', hs', rfl⟩ := Option.map_eq_some_iff.mp hs
    exact .failed hs' ha hg hd hk
  | prompted hg hst hp hd =>
    rw [← hplay, hown] at hg
    rw [hown] at hp
    rw [← hplay] at hst
    exact .prompted hg hst hp hd
  | parked hg hst hd =>
    rw [← hplay, hown] at hg
    rw [← hplay] at hst
    refine .parked hg hst (hb.inFlight hf ?_) hd
    rwa [verdict, interpreter_play hf] at hst

theorem gateOf_waits (hf : Formed start) {later : List Turn}
    (hg : gateOf (play start past) d = some start.interpreter) (hw : Waits start d past later) :
    gateOf (play start (past ++ later)) d = some start.interpreter := by
  induction later using List.reverseRecOn with
  | nil => rwa [List.append_nil]
  | append_singleton later u ih =>
    have hgate := ih fun mid v rest he => hw mid v (rest ++ [u]) (by simp [he])
    obtain ⟨ha, hc, -⟩ := hw later u [] rfl
    rw [← interpreter_play hf (past ++ later)] at hgate ⊢
    have hkept := gateOf_kept (formed_play hf (past ++ later)) hgate ha hc
    rwa [← List.append_assoc, play_append start (past ++ later)]

/-- An attempt that comes to waiting leaves its document at the gate of a probe in flight. -/
theorem awaits_turn (hf : Formed start) (hb : Balanced start (past ++ [t]))
    (ha : (d, .awaitingAvailability) ∈ t.attempts (play start past)) :
    gateOf (play start (past ++ [t])) d = some start.interpreter ∧
      InFlight start (past ++ [t]) (.probe start.interpreter) := by
  have hf' := formed_play hf past
  obtain ⟨l, hl⟩ := turn_unfolds hf' t
  obtain ⟨hp, hst⟩ := hl.awaits ha
  have hgate := gateOf_park hf' hl hp
  have hplay : play start (past ++ [t]) = t.apply (play start past) := by simp
  rw [interpreter_play hf, ← hplay] at hgate
  rw [← hplay, verdict, interpreter_play hf] at hst
  exact ⟨hgate, hb.inFlight hf hst⟩

theorem InFlight.waits (h : InFlight start past (.probe start.interpreter))
    (hf : Formed start) {later : List Turn} (hw : Waits start d past later) :
    InFlight start (past ++ later) (.probe start.interpreter) := by
  refine h.later hf fun u hu => ?_
  obtain ⟨mid, rest, rfl⟩ := List.append_of_mem hu
  exact (hw mid u rest rfl).2.2

end Runs

/-- No wake-up is lost, whatever is refused. -/
theorem no_lost_wakeup (availability : Availability) (options : Options) (turns : List Turn)
    (hidle : (availability.knowledge options.interpreter).probing = false)
    (hh : Honest (.new availability options) turns) :
    NoneLost (.new availability options) turns := by
  have hf := formed_new availability options
  have hbalanced : ∀ past later, turns = past ++ later →
      Balanced (.new availability options) past := by
    intro past later he
    exact Honest.balanced availability options hidle (Honest.take (he ▸ hh))
  constructor
  · intro past t later d he ha hw
    have hsplit : turns = (past ++ [t]) ++ later := by simp [he]
    obtain ⟨hgate, hflight⟩ := awaits_turn hf (hbalanced _ _ hsplit) ha
    rw [hsplit]
    exact ⟨gateOf_waits hf hgate hw, hflight.waits hf hw⟩
  · intro past t later p he ht
    have hsplit : turns = (past ++ [t]) ++ later := by simp [he]
    have hf' := formed_play hf past
    obtain ⟨l, hl⟩ := turn_unfolds hf' t
    have hanswer := ht.answer hl
    have hown : ∀ outcome, t.move = .complete ⟨.probe p, outcome⟩ →
        p = (play (.new availability options) past).interpreter := by
      intro outcome hm
      have hflight : InFlight (.new availability options) past (.probe p) := hh past t later _ he hm
      rw [interpreter_play hf]
      exact (hbalanced _ _ he).own p (Nat.lt_of_le_of_lt (Nat.zero_le _) hflight)
    have hcomes := fun d hg => hanswer.comes (d := d) hf' hl hg hown
    refine ⟨fun d hg => ?_, fun d hg => ?_⟩
    · have hlast := lastAsked_play availability options past d
      exact (hcomes d hg).settled hf (hbalanced _ _ hsplit) hlast
    · rw [play_append, play_cons, play_nil] at hg ⊢
      obtain ⟨hgate, hsame⟩ := gateOf_of_gated (hf'.acts hl.acts) hg
      rw [← status_same hsame]
      exact (hcomes d (hanswer.gated_before hf' hg)).unavailable hgate

/-- The probe succeeds on which two documents wait, and the first launch that follows is refused. -/
def refusedOnce : List Turn :=
  [⟨obliging, 0, .request ⟨"d", "one", none⟩ .save⟩,
    ⟨obliging, 1, .request ⟨"e", "two", none⟩ .save⟩,
    ⟨{ obliging with spawn := fun n _ _ => if n = 1 then some ⟨.notFound, "gone"⟩ else none }, 2,
      .complete ⟨.probe "python", .exited (some 0) "" ""⟩⟩]

theorem no_lost_wakeup_refusedOnce :
    (Availability.knowledge [] plainOptions.interpreter).probing = false ∧
      Honest (.new [] plainOptions) refusedOnce ∧ NoneLost (.new [] plainOptions) refusedOnce :=
  have hidle : (Availability.knowledge [] plainOptions.interpreter).probing = false := by decide
  have hhonest : Honest (.new [] plainOptions) refusedOnce := by decide +kernel
  ⟨hidle, hhonest, no_lost_wakeup [] plainOptions refusedOnce hidle hhonest⟩

/-- A document waits for a probe that does not find the tracer. -/
def probedInVain : List Turn :=
  [⟨obliging, 0, .request ⟨"d", "one", none⟩ .explicit⟩,
    ⟨obliging, 1, .complete ⟨.probe "python", .exited (some 1) "" ""⟩⟩]

/-- After a negative verdict the last attempt of a document is still one that came to waiting, and
no probe is in flight. -/
theorem awaits_without_probe :
    Honest (.new [] plainOptions) probedInVain ∧
      (∃ t u, probedInVain = [t, u] ∧
        ("d", .awaitingAvailability) ∈ t.attempts (.new [] plainOptions) ∧
        u.attempts (play (.new [] plainOptions) [t]) = [] ∧ u.move ≠ .close "d") ∧
      ¬ InFlight (.new [] plainOptions) probedInVain (.probe "python") := by
  refine ⟨by decide +kernel, ⟨_, _, rfl, by decide +kernel, by decide +kernel, by simp⟩, ?_⟩
  decide +kernel

end TraceView.Proofs.Run
