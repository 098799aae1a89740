import TraceView.Proofs.Run.Lead

/-!
# Verdicts that stand

The verdict that the tracer is there comes with a probe or an install. It goes when a run refutes
it, and in one more case: probes and installs are not kept apart, so a probe that was started before
an install succeeded may report afterwards that the tracer is missing.
-/
namespace TraceView.Proofs.Run

open TraceView.Run
open TraceView.Proofs.KeyOrder

/-- A turn that casts doubt on the verdict: a trace cannot be started, or ends with the complaint
that the tracer is missing. -/
inductive Refutes (s : Scheduler) (t : Turn) : Prop where
  | refused {d token delivery program cause} (h : .delivered d token delivery ∈ t.told s)
      (hk : delivery.kind = .infrastructure)
      (ht : delivery.text = launchFailureMessage (.spawn program cause))
  | missing {d token outcome delivery} (hm : t.move = .complete ⟨.trace d token, outcome⟩)
      (h : .delivered d token delivery ∈ t.told s) (hk : delivery.kind = .userError)
      (ht : indicatesMissing delivery.text s.options.tracerModule = true)

/-- The verdict that the tracer is there comes with every success, and stays until it is refuted. -/
structure Firm (start : Scheduler) (turns : List Turn) : Prop where
  made : ∀ past t later completion p, turns = past ++ t :: later →
    t.move = .complete completion → vouched? completion = some p →
    p.same start.interpreter = true →
    verdict (play start (past ++ [t])) = .available ∨ Refutes (play start past) t
  kept : ∀ past t later, turns = past ++ t :: later → verdict (play start past) = .available →
    verdict (play start (past ++ [t])) = .available ∨ Refutes (play start past) t

/-- An install succeeded while a probe was in flight that has not completed since. -/
inductive Overtook (start : Scheduler) (past : List Turn) : Prop where
  | mk {before u mid p id outcome} (he : past = before ++ u :: mid)
      (hm : u.move = .complete ⟨.install p id, outcome⟩) (ho : outcome.success = true)
      (hp : p.same start.interpreter = true)
      (hflight : InFlight start before (.probe start.interpreter))
      (hmid : ∀ v ∈ mid, isCompletion (.probe start.interpreter) v = false)

/-- A probe that an install has overtaken reports against the verdict. -/
structure Overtaken (start : Scheduler) (past : List Turn) (t : Turn) : Prop where
  stands : verdict (play start past) = .available
  denied : ∃ outcome, t.move = .complete ⟨.probe start.interpreter, outcome⟩ ∧
    outcome.success = false
  overtook : Overtook start past

section Status

variable {a : Availability} {p q : Path} {k : Knowledge}

theorem status_set_of (a : Availability) (p : Path) (k : Knowledge) (q : Path) :
    (a.set p k).status q = if p.same q then k.status else a.status q := by
  rw [Availability.status, knowledge_set]
  split <;> rfl

/-- What is written down beside the verdict does not change it. -/
theorem status_set_same (h : k.status = (a.knowledge p).status) :
    (a.set p k).status q = a.status q := by
  rw [status_set_of]
  split
  · next hp => exact h.trans (status_same hp)
  · rfl

theorem status_beginInstall {a' : Availability} (h : a.beginInstall? p = some a') :
    a'.status q = a.status q := by
  simp only [Availability.beginInstall?] at h
  split at h
  · cases h
  · cases h
    exact status_set_same rfl

theorem status_finishInstall_false : (a.finishInstall p false).status q = a.status q :=
  status_set_same rfl

theorem status_invalidate (a : Availability) (p : Path) :
    (a.invalidate p).status p ≠ .available := by
  rw [Availability.invalidate, status_set, Knowledge.status]
  change (if _ then _ else _ : Status) ≠ _
  split <;> simp

end Status

/-- How an act changes the verdict. -/
inductive Shifts (s : Scheduler) : Act → Scheduler → Prop where
  | same {a s'} (h : verdict s' = verdict s) : Shifts s a s'
  | probing {process spec p s'} (hu : verdict s = .unknown) (h : verdict s' = .probing) :
      Shifts s (.probe process spec p) s'
  | unprobed {spec p s'} (hu : verdict s = .unknown) (h : verdict s' = .unavailable) :
      Shifts s (.probeRefused spec p) s'
  | judged {p b s'} (hp : p.same s.interpreter = true)
      (h : verdict s' = if b then .available else .unavailable) : Shifts s (.judge p b) s'
  | installed {p id output s'} (hp : p.same s.interpreter = true)
      (h : verdict s' = .available) : Shifts s (.installed p id true output) s'
  | refused {d token delivery tried program cause s'} (hk : delivery.kind = .infrastructure)
      (ht : delivery.text = launchFailureMessage (.spawn program cause))
      (h : verdict s' ≠ .available) : Shifts s (.fail d token delivery tried) s'
  | missing {d token delivery s'} (hk : delivery.kind = .userError)
      (ht : indicatesMissing delivery.text s.options.tracerModule = true)
      (h : verdict s' ≠ .available) : Shifts s (.accept d token delivery) s'

variable {s s' : Scheduler} {t : Turn} {l : List Act} {a : Act}

theorem verdict_elsewhere {p : Path} {k : Knowledge} (hp : ¬ p.same s.interpreter = true)
    (ha : s'.availability = s.availability.set p k) (ho : s'.options = s.options) :
    verdict s' = verdict s := by
  have hi : s'.interpreter = s.interpreter := congrArg Options.interpreter ho
  rw [verdict, hi, ha, status_set_of, if_neg hp]
  rfl

theorem Does.shifts (h : Does s a s') : Shifts s a s' := by
  have ho := options_does h
  cases h with
  | probe hu hb hes =>
    have hshift := verdict_probe (.probe hu hb hes)
    exact .probing hshift.1 hshift.2
  | probeRefused hu hb hes =>
    have hshift := verdict_probeRefused (.probeRefused hu hb hes)
    exact .unprobed hshift.1 hshift.2
  | @miscopy env p id slot snapshot fault delivery es hs ha hr hv hp hno hd =>
    cases fault with
    | sourceCopy => exact .same rfl
    | spawn program cause =>
      subst hd
      exact .refused rfl rfl (status_invalidate _ _)
  | refuse hs ha hr hv hp hok hd =>
    subst hd
    exact .refused rfl rfl (status_invalidate _ _)
  | @accept id token slot run outcome delivery es hs hl ha hd =>
    by_cases hu : delivery.kind = .userError ∧
        indicatesMissing delivery.text s.options.tracerModule = true
    · by_cases hp : run.interpreter.same s.interpreter = true
      · refine .missing hu.1 hu.2 ?_
        change (if _ then _ else _ : Availability).status _ ≠ _
        rw [if_pos hu]
        exact fun he => status_invalidate s.availability run.interpreter ((status_same hp).trans he)
      · exact .same (verdict_elsewhere hp (if_pos hu) ho)
    · exact .same (verdict_congr (if_neg hu) ho)
  | @judge p b es =>
    by_cases hp : p.same s.interpreter = true
    · exact .judged hp ((status_same hp).symm.trans (status_finishProbe s.availability p b))
    · exact .same (verdict_elsewhere hp rfl ho)
  | install hb => exact .same (status_beginInstall hb)
  | installRefused hb => exact .same (status_finishInstall_false.trans (status_beginInstall hb))
  | @installed p id success output es =>
    cases success with
    | false => exact .same status_finishInstall_false
    | true =>
      by_cases hp : p.same s.interpreter = true
      · exact .installed hp ((status_same hp).symm.trans (status_finishInstall s.availability p))
      · exact .same (verdict_elsewhere hp rfl ho)
  | _ => exact .same rfl

/-- Plain acts do not make the verdict that the tracer is there. -/
theorem Acts.unavailable_kept (h : Acts s l s') (hl : ∀ a ∈ l, isPlain a = true)
    (hv : verdict s ≠ .available) : verdict s' ≠ .available := by
  induction h with
  | nil => exact hv
  | cons first rest ih =>
    refine ih (fun a ha => hl a (List.mem_cons_of_mem _ ha)) ?_
    have hplain := hl _ List.mem_cons_self
    cases first.shifts with
    | same he => rwa [he]
    | probing _ he | unprobed _ he => simp [he]
    | judged | installed => cases hplain
    | refused _ _ he | missing _ _ he => exact he

/-- The acts by which the verdict goes that the tracer is there. -/
inductive Undoes (s : Scheduler) : Act → Prop where
  | denied {p} (hp : p.same s.interpreter = true) : Undoes s (.judge p false)
  | refused {d token delivery tried program cause} (hk : delivery.kind = .infrastructure)
      (ht : delivery.text = launchFailureMessage (.spawn program cause)) :
      Undoes s (.fail d token delivery tried)
  | missing {d token delivery} (hk : delivery.kind = .userError)
      (ht : indicatesMissing delivery.text s.options.tracerModule = true) :
      Undoes s (.accept d token delivery)

theorem Undoes.congr (h : Undoes s a) (ho : s.options = s'.options) : Undoes s' a := by
  cases h with
  | denied hp => exact .denied (by rwa [Scheduler.interpreter, ← ho])
  | refused hk ht => exact .refused hk ht
  | missing hk ht => exact .missing hk (by rwa [← ho])

theorem Does.undoes (h : Does s a s') (hv : verdict s = .available)
    (hv' : verdict s' ≠ .available) : Undoes s a := by
  cases h.shifts with
  | same he => exact absurd (he.trans hv) hv'
  | probing hu | unprobed hu =>
    rw [hu] at hv
    cases hv
  | @judged p b _ hp he =>
    cases b with
    | false => exact .denied hp
    | true => exact absurd he hv'
  | installed hp he => exact absurd he hv'
  | refused hk ht => exact .refused hk ht
  | missing hk ht => exact .missing hk ht

theorem Acts.undone (h : Acts s l s') (hv : verdict s = .available)
    (hv' : verdict s' ≠ .available) : ∃ a ∈ l, Undoes s a := by
  induction h with
  | nil => exact absurd hv hv'
  | @cons s mid s' a l first rest ih =>
    by_cases hmid : verdict mid = .available
    · obtain ⟨b, hb, hu⟩ := ih hmid hv'
      exact ⟨b, List.mem_cons_of_mem _ hb, hu.congr (options_does first)⟩
    · exact ⟨a, List.mem_cons_self, first.undoes hv hmid⟩

/-- The tracer is reported to be missing. -/
def Denied (s : Scheduler) (t : Turn) : Prop :=
  ∃ p outcome, t.move = .complete ⟨.probe p, outcome⟩ ∧ outcome.success = false ∧
    p.same s.interpreter = true

theorem Undoes.turn (hu : Undoes s a) (hf : Formed s) (h : Plays s t l (t.apply s))
    (ha : a ∈ l) : Refutes s t ∨ Denied s t := by
  cases hu with
  | refused hk ht => exact .inl (.refused (h.mem_told ha (List.mem_singleton_self _)) hk ht)
  | @missing d token delivery hk ht =>
    obtain ⟨outcome, hm⟩ := (h.course hf d).accept_move (mem_about.mpr ⟨ha, rfl⟩)
    exact .inl (.missing hm (h.mem_told ha (List.mem_singleton_self _)) hk ht)
  | @denied p hp =>
    cases h.judges with
    | unjudged hm hl => exact absurd rfl (hl _ ha p false)
    | @judged q outcome mid rest hm hl first acts hrest =>
      rw [hl] at ha
      rcases List.mem_cons.mp ha with he | ha
      · rw [Act.judge.injEq] at he
        exact .inr ⟨q, outcome, hm, he.2.symm, he.1 ▸ hp⟩
      · exact absurd rfl (hrest _ ha p false)

/-- The verdict that the tracer is there stays, is refuted, or is taken back by a probe. -/
theorem Plays.kept (hf : Formed s) (h : Plays s t l (t.apply s)) (hv : verdict s = .available) :
    verdict (t.apply s) = .available ∨ Refutes s t ∨ Denied s t := by
  by_cases hv' : verdict (t.apply s) = .available
  · exact .inl hv'
  · obtain ⟨a, ha, hu⟩ := h.acts.undone hv hv'
    exact .inr (hu.turn hf h ha)

theorem Vouches.available {completion : Completion} {p : Path} (ha : Vouches completion p a)
    (h : Does s a s') (hp : p.same s.interpreter = true) : verdict s' = .available := by
  cases ha with
  | judge =>
    cases h
    exact (status_same hp).symm.trans (status_finishProbe s.availability p true)
  | installed =>
    cases h
    exact (status_same hp).symm.trans (status_finishInstall s.availability p)

theorem judge_elsewhere {p : Path} {b : Bool} (h : Does s (.judge p b) s')
    (hp : ¬ p.same s.interpreter = true) : verdict s' = verdict s := by
  cases h.shifts with
  | same he => exact he
  | judged hp' => exact absurd hp' hp

theorem Vouches.elsewhere {completion : Completion} {p : Path} (ha : Vouches completion p a)
    (h : Does s a s') (hp : ¬ p.same s.interpreter = true) : verdict s' = verdict s := by
  cases ha with
  | judge => exact judge_elsewhere h hp
  | installed =>
    cases h.shifts with
    | same he => exact he
    | installed hp' => exact absurd hp' hp

/-- A success makes the verdict that the tracer is there, unless it is refuted at once. -/
theorem Plays.made (hf : Formed s) (h : Plays s t l (t.apply s)) {completion : Completion}
    {p : Path} (hm : t.move = .complete completion) (hv : vouched? completion = some p)
    (hp : p.same s.interpreter = true) :
    verdict (t.apply s) = .available ∨ Refutes s t := by
  by_cases hv' : verdict (t.apply s) = .available
  · exact .inl hv'
  have hdenied : ¬ Denied s t := by
    rintro ⟨q, outcome, hm', ho, -⟩
    rw [hm] at hm'
    cases hm'
    simp [vouched?, ho] at hv
  cases h.leads with
  | granted hm' hv'' ha first rest =>
    cases hm.symm.trans hm'
    cases hv.symm.trans hv''
    obtain ⟨b, hb, hu⟩ := rest.acts.undone (ha.available first hp) hv'
    have hu := hu.congr (options_does first)
    exact .inr ((hu.turn hf h (List.mem_cons_of_mem _ hb)).resolve_right hdenied)
  | denied hm' ho =>
    cases hm.symm.trans hm'
    simp [vouched?, ho] at hv
  | closed hm' => cases hm.symm.trans hm'
  | plain hs => exact absurd (hm ▸ settles_of_vouched hv) (hs p)

/-- Only a success makes the verdict that the tracer is there. -/
theorem Plays.gained (h : Plays s t l s') (hv : verdict s ≠ .available)
    (hv' : verdict s' = .available) : ∃ completion p, t.move = .complete completion ∧
      vouched? completion = some p ∧ p.same s.interpreter = true := by
  cases h.leads with
  | denied hm ho first rest =>
    rw [rest.same_verdict] at hv'
    cases first.shifts with
    | same he => exact absurd (he.symm.trans hv') hv
    | judged hp he => cases he.symm.trans hv'
  | @granted completion p a mid l s' hm hu ha first rest =>
    by_cases hp : p.same s.interpreter = true
    · exact ⟨completion, p, hm, hu, hp⟩
    · rw [← ha.elsewhere first hp] at hv
      exact absurd hv' (rest.acts.unavailable_kept rest.plain hv)
  | closed hm first =>
    cases first.shifts with
    | same he => exact absurd (he.symm.trans hv') hv
  | plain hm hc acts hl => exact absurd hv' (acts.unavailable_kept hl hv)

/-- A probe that reports the tracer to be missing makes that the verdict without any run. -/
theorem Plays.denied (h : Plays s t l (t.apply s)) (hd : Denied s t) :
    verdict (t.apply s) = .unavailable ∧ ¬ Refutes s t := by
  obtain ⟨p, outcome, hm, ho, hp⟩ := hd
  have hunvouched : vouched? ⟨.probe p, outcome⟩ = none := by simp [vouched?, ho]
  have htold := h.told
  generalize t.apply s = s' at h ⊢
  cases h.leads with
  | @denied q outcome' mid l s' hm' ho' first rest =>
    cases hm.symm.trans hm'
    refine ⟨?_, ?_⟩
    · rw [rest.same_verdict]
      cases first
      exact (status_same hp).symm.trans (status_finishProbe s.availability p false)
    · have hprompts : ∀ n ∈ t.told s, ∃ d q message, n = .installPrompt d q message := by
        intro n hn
        rw [htold] at hn
        obtain ⟨a, ha, hn⟩ := List.mem_flatMap.mp hn
        rcases List.mem_cons.mp ha with rfl | ha
        · cases hn
        · obtain ⟨d, message, rfl⟩ := rest.only a ha
          exact ⟨d, p, message, List.mem_singleton.mp hn⟩
      intro hr
      cases hr with
      | refused hn =>
        obtain ⟨d, q, message, he⟩ := hprompts _ hn
        cases he
      | missing hm'' => cases hm.symm.trans hm''
  | granted hm' hv =>
    cases hm.symm.trans hm'
    rw [hunvouched] at hv
    cases hv
  | closed hm' => cases hm.symm.trans hm'
  | plain hs => exact absurd (hm ▸ Settles.probe) (hs p)

theorem Acts.probing (h : Acts s l s') (hl : ∀ a ∈ l, isPlain a = true) {p : Path}
    (hp : launchesOf (.probe p) s.events < launchesOf (.probe p) s'.events) :
    verdict s' ≠ .available := by
  induction h with
  | nil => exact absurd hp (Nat.lt_irrefl _)
  | cons first rest ih =>
    have hrest := fun a ha => hl a (List.mem_cons_of_mem _ ha)
    rcases launches_probe first p with hz | ⟨-, -, process, spec, rfl⟩
    · rw [launches_does first, hz, Nat.add_zero] at ih
      exact ih hrest hp
    · exact rest.unavailable_kept hrest (by simp [(verdict_probe first).2])

/-- A turn that starts a probe does not end with the verdict that the tracer is there. -/
theorem Plays.probing (h : Plays s t l s') {p : Path}
    (hp : launchesOf (.probe p) s.events < launchesOf (.probe p) s'.events) :
    verdict s' ≠ .available := by
  have hfirst : ∀ {a mid}, Does s a mid → (∀ process spec, a ≠ .probe process spec p) →
      launchesOf (.probe p) mid.events = launchesOf (.probe p) s.events := by
    intro a mid hdoes hne
    rcases launches_probe hdoes p with hz | ⟨-, -, process, spec, he⟩
    · rw [launches_does hdoes, hz, Nat.add_zero]
    · exact absurd he (hne process spec)
  cases h.leads with
  | denied hm ho first rest =>
    rw [← hfirst first (by simp)] at hp
    exact rest.acts.probing rest.plain hp
  | granted hm hv ha first rest =>
    rw [← hfirst first (by cases ha <;> simp)] at hp
    exact rest.acts.probing rest.plain hp
  | closed hm first =>
    rw [← hfirst first (by simp)] at hp
    exact absurd hp (Nat.lt_irrefl _)
  | plain hm hc acts hl => exact acts.probing hl hp

section Runs

variable {start : Scheduler} {past : List Turn}

theorem probes_own (hf : Formed start) (he : start.events = []) (past : List Turn) {p : Path}
    (hp : 0 < launchesOf (.probe p) (play start past).events) : p = start.interpreter := by
  induction past using List.reverseRecOn with
  | nil =>
    rw [play_nil, he] at hp
    exact absurd hp (Nat.lt_irrefl 0)
  | append_singleton past t ih =>
    by_cases hbefore : 0 < launchesOf (.probe p) (play start past).events
    · exact ih hbefore
    · obtain ⟨l, hl⟩ := turn_unfolds (formed_play hf past) t
      rw [play_append] at hp
      rw [← interpreter_play hf past]
      exact own_acts hl.acts (Nat.lt_of_le_of_lt (Nat.le_of_not_lt hbefore) hp)

/-- A store that has a probe under way from the beginning never starts one. -/
theorem Honest.probeless (hf : Formed start) (he : start.events = []) (hb : probes start = 1)
    (hh : Honest start past) : launchesOf (.probe start.interpreter) (play start past).events = 0 ∧
      probes (play start past) = 1 := by
  induction past using List.reverseRecOn with
  | nil =>
    rw [play_nil, he]
    exact ⟨rfl, hb⟩
  | append_singleton past t ih =>
    obtain ⟨hpast, ht⟩ := honest_snoc hh
    obtain ⟨hnone, hmark⟩ := ih hpast
    obtain ⟨l, hl⟩ := turn_unfolds (formed_play hf past) t
    have hi := interpreter_play hf past
    rw [play_append, play_cons, play_nil]
    cases hl.judges with
    | unjudged hm hunjudged =>
      have hbalance := balance_acts hl.acts hunjudged
      have hle := probes_le (t.apply (play start past))
      rw [hi] at hbalance
      omega
    | @judged q outcome mid rest hm =>
      have hflight : InFlight start past (.probe q) := ht _ hm
      have hlaunched := Nat.lt_of_le_of_lt (Nat.zero_le _) hflight
      rw [probes_own hf he past hlaunched, hnone] at hlaunched
      exact absurd hlaunched (Nat.lt_irrefl 0)

theorem Honest.single_probe {availability : Availability} {options : Options}
    (hh : Honest (.new availability options) past) :
    launchesOf (.probe options.interpreter) (play (.new availability options) past).events ≤
      completionsOf (.probe options.interpreter) past + 1 := by
  have hf := formed_new availability options
  cases hidle : (availability.knowledge options.interpreter).probing with
  | false =>
    have hbalance := (Honest.balanced availability options hidle hh).balance
    have hle := probes_le (play (.new availability options) past)
    exact hbalance ▸ Nat.add_le_add_left hle _
  | true =>
    have hnone := (hh.probeless hf rfl (congrArg Bool.toNat hidle)).1
    exact hnone ▸ Nat.zero_le _

/-- While the verdict is that the tracer is there, a probe in flight was overtaken by an install. -/
theorem Honest.overtook {availability : Availability} {options : Options}
    (hh : Honest (.new availability options) past)
    (hst : verdict (play (.new availability options) past) = .available)
    (hfl : InFlight (.new availability options) past (.probe options.interpreter)) :
    Overtook (.new availability options) past := by
  have hf := formed_new availability options
  induction past using List.reverseRecOn with
  | nil => exact absurd hfl (Nat.lt_irrefl 0)
  | append_singleton past t ih =>
    obtain ⟨hpast, ht⟩ := honest_snoc hh
    obtain ⟨l, hl⟩ := turn_unfolds (formed_play hf past) t
    have hi := interpreter_play hf past
    rw [InFlight, completionsOf_snoc] at hfl
    rw [play_append, play_cons, play_nil] at hst hfl
    have hlaunches := Nat.le_antisymm (Nat.le_of_not_lt fun hp => hl.probing hp hst)
      (launches_acts hl.acts (.probe options.interpreter))
    have hsingle := hpast.single_probe
    have hopen : isCompletion (.probe options.interpreter) t = false := by
      cases hc : isCompletion (.probe options.interpreter) t with
      | false => rfl
      | true =>
        rw [hc, if_pos rfl] at hfl
        omega
    have hbefore : InFlight (.new availability options) past (.probe options.interpreter) := by
      rw [hopen, if_neg (by simp), Nat.add_zero, hlaunches] at hfl
      exact hfl
    by_cases hv : verdict (play (.new availability options) past) = .available
    · cases ih hpast hv hbefore with
      | @mk before u mid p id outcome he hm ho hp hflight hmid =>
        have hmid' : ∀ v ∈ mid ++ [t], isCompletion (.probe options.interpreter) v = false := by
          intro v hv
          rcases List.mem_append.mp hv with hv | hv
          · exact hmid v hv
          · cases List.mem_singleton.mp hv
            exact hopen
        have hsplit : past ++ [t] = before ++ u :: (mid ++ [t]) := by simp [he]
        exact .mk hsplit hm ho hp hflight hmid'
    · obtain ⟨⟨tag, outcome⟩, p, hm, hvouched, hp⟩ := hl.gained hv hst
      have hsettles := settles_of_vouched hvouched
      cases hsettles with
      | probe =>
        have hlaunched := Nat.lt_of_le_of_lt (Nat.zero_le _) (ht _ hm)
        have hown : p = options.interpreter := probes_own hf rfl past hlaunched
        simp [isCompletion, hm, hown] at hopen
      | install ho => exact .mk rfl hm ho (hi ▸ hp) hbefore (by simp)

end Runs

/-- The verdict that the tracer is there is firm exactly if no probe reports against it that an
install has overtaken. -/
theorem verdict_firm_iff (availability : Availability) (options : Options) (turns : List Turn)
    (hh : Honest (.new availability options) turns) :
    Firm (.new availability options) turns ↔ ∀ past t later, turns = past ++ t :: later →
      ¬ Overtaken (.new availability options) past t := by
  have hf := formed_new availability options
  have hplay : ∀ past t, play (.new availability options) (past ++ [t]) =
      t.apply (play (.new availability options) past) := by simp
  constructor
  · intro hfirm past t later he hover
    obtain ⟨outcome, hm, ho⟩ := hover.denied
    obtain ⟨l, hl⟩ := turn_unfolds (formed_play hf past) t
    have hi := interpreter_play hf past
    obtain ⟨hunavailable, hno⟩ := hl.denied ⟨_, outcome, hm, ho, by rw [hi, same_self]⟩
    rcases hfirm.kept past t later he hover.stands with hst | hr
    · rw [hplay, hunavailable] at hst
      cases hst
    · exact hno hr
  · intro hnone
    constructor
    · intro past t later completion p he hm hv hp
      obtain ⟨l, hl⟩ := turn_unfolds (formed_play hf past) t
      rw [hplay]
      exact hl.made (formed_play hf past) hm hv ((interpreter_play hf past).symm ▸ hp)
    · intro past t later he hst
      obtain ⟨l, hl⟩ := turn_unfolds (formed_play hf past) t
      rw [hplay]
      rcases hl.kept (formed_play hf past) hst with h | h | ⟨p, outcome, hm, ho, hp⟩
      · exact .inl h
      · exact .inr h
      · have hflight : InFlight (.new availability options) past (.probe p) :=
          hh past t later _ he hm
        have hown : p = options.interpreter :=
          probes_own hf rfl past (Nat.lt_of_le_of_lt (Nat.zero_le _) hflight)
        subst hown
        have hpast : Honest (.new availability options) past := Honest.take (he ▸ hh)
        exact absurd ⟨hst, ⟨outcome, hm, ho⟩, hpast.overtook hst hflight⟩ (hnone past t later he)

/-- A probe is in flight when an install succeeds, and fails after it. -/
def overtakenProbe : List Turn :=
  [⟨obliging, 0, .request ⟨"d", "one", none⟩ .save⟩,
    ⟨obliging, 1, .install "d"⟩,
    ⟨obliging, 2, .complete ⟨.install "python" "d", .exited (some 0) "" ""⟩⟩,
    ⟨obliging, 3, .complete ⟨.probe "python", .exited (some 1) "" ""⟩⟩]

theorem verdict_firm_iff_overtakenProbe :
    Honest (.new [] plainOptions) overtakenProbe ∧
      (Firm (.new [] plainOptions) overtakenProbe ↔
        ∀ past t later, overtakenProbe = past ++ t :: later →
          ¬ Overtaken (.new [] plainOptions) past t) :=
  have hhonest : Honest (.new [] plainOptions) overtakenProbe := by decide +kernel
  ⟨hhonest, verdict_firm_iff [] plainOptions overtakenProbe hhonest⟩

/-- What the install made of the verdict, the probe unmakes. -/
theorem probe_overrules_install :
    Honest (.new [] plainOptions) overtakenProbe ∧
      verdict (play (.new [] plainOptions) (overtakenProbe.take 3)) = .available ∧
      verdict (play (.new [] plainOptions) overtakenProbe) = .unavailable ∧
      ¬ Firm (.new [] plainOptions) overtakenProbe := by
  have hafter : verdict (play (.new [] plainOptions) overtakenProbe) = .unavailable := by
    decide +kernel
  have hbefore : verdict (play (.new [] plainOptions) (overtakenProbe.take 3)) = .available := by
    decide +kernel
  refine ⟨by decide +kernel, hbefore, hafter, fun hfirm => ?_⟩
  rcases hfirm.kept (overtakenProbe.take 3) _ [] rfl hbefore with hst | hr
  · have hst : verdict (play (.new [] plainOptions) overtakenProbe) = .available := hst
    rw [hafter] at hst
    cases hst
  · cases hr with
    | missing hm => cases hm
    | refused hn =>
      have htold : Turn.told ⟨obliging, 3, .complete ⟨.probe "python", .exited (some 1) "" ""⟩⟩
          (play (.new [] plainOptions) (overtakenProbe.take 3)) = [] := by
        decide +kernel
      rw [htold] at hn
      cases hn

end TraceView.Proofs.Run
