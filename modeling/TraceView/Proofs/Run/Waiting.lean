import TraceView.Proofs.Run.InFlight
import TraceView.Proofs.Run.Local

/-!
# Documents that wait

A document waits at its gate until it is attempted again or closed. A verdict that is open because
of a probe, or that is negative, is not changed by attempts, so what a document waits for when its
own attempt is over is what it waits for at the end of the turn.
-/
namespace TraceView.Proofs.Run

open TraceView.Run
open TraceView.Proofs.KeyOrder

variable {s s' : Scheduler} {t : Turn} {d : DocumentId} {l : List Act}

/-- The interpreter an open document waits for. -/
def gateOf (s : Scheduler) (d : DocumentId) : Option Path := (s.slot? d).bind (·.gatedOn)

theorem gateOf_bare (s : Scheduler) (d : DocumentId) :
    gateOf s d = (bare s d).bind (·.gatedOn) := by
  rw [gateOf, bare]
  cases s.slot? d <;> rfl

theorem Begins.ne_park {b : Act} (h : Begins d b) {k : DocumentId} : b ≠ .park k := by
  cases h <;> simp

/-- A turn that parks a document leaves it at the gate. -/
theorem Fares.parked {x z : Option Slot} (h : Fares s t d x l z) (hp : .park d ∈ l) :
    z.bind (·.gatedOn) = some s.interpreter := by
  cases h with
  | @attempted slot slot' pre b e hw ha hb hl hz hran =>
    have he : e = .park d := by
      rw [hl] at hp
      have hne : .park d ≠ b := hb.ne_park.symm
      cases hw <;> simpa [hne, eq_comm] using hp
    subst he
    cases hran
    rw [hz]
    rfl
  | installing hm ha hl =>
    rw [hl] at hp
    cases ha <;> simp at hp
  | edited _ _ hl | accepted _ hl | closed _ hl | aside _ hl => simp [hl] at hp

theorem gateOf_park (hf : Formed s) (h : Plays s t l (t.apply s)) (hp : .park d ∈ l) :
    gateOf (t.apply s) d = some s.interpreter := by
  rw [gateOf_bare]
  exact (h.fares hf d).parked (mem_about.mpr ⟨hp, rfl⟩)

/-- Only an attempt or a close opens the gate of a document. -/
theorem gateOf_kept (hf : Formed s) (hg : gateOf s d = some s.interpreter)
    (ha : d ∉ t.attempted s) (hc : t.move ≠ .close d) :
    gateOf (t.apply s) d = some s.interpreter := by
  obtain ⟨l, hl⟩ := turn_unfolds hf t
  rw [gateOf_bare] at hg ⊢
  obtain ⟨slot, hx, hgate⟩ := Option.bind_eq_some_iff.mp hg
  cases hl.fares hf d with
  | attempted _ hattempted => exact absurd hattempted ha
  | closed hm => exact absurd hm hc
  | aside _ _ hz => rwa [hz]
  | edited _ _ _ hz =>
    rw [hz, hx]
    exact hgate
  | accepted _ _ hx' _ hz =>
    cases hx.symm.trans hx'
    rw [hz]
    exact hgate
  | installing _ _ _ hz =>
    rw [hz, hx, Option.map_some, gated]
    split
    · rfl
    · exact hgate

/-- The verdict of the configured interpreter. -/
def verdict (s : Scheduler) : Status := s.availability.status s.interpreter

/-- Verdicts that attempts do not change. -/
def Lasting (st : Status) : Prop := st = .probing ∨ st = .unavailable

theorem verdict_congr (ha : s'.availability = s.availability) (ho : s'.options = s.options) :
    verdict s' = verdict s := by
  rw [verdict, verdict, Scheduler.interpreter, ha, ho]
  rfl

theorem Prompting.same_verdict {interpreter : Path} {ids : List DocumentId}
    (h : Prompting s interpreter ids l s') : verdict s' = verdict s :=
  verdict_congr h.frame.1 (options_acts h.acts)

theorem verdict_park (h : Does s (.park d) s') : verdict s' = verdict s := by
  cases h
  rfl

theorem verdict_calm (h : Does s (.calm d) s') : verdict s' = verdict s := by
  cases h
  rfl

theorem Begins.same_verdict {b : Act} (hb : Begins d b) (h : Does s b s') :
    verdict s' = verdict s := by
  cases hb <;> cases h <;> rfl

theorem verdict_probe {process : Nat} {spec : LaunchSpec} {interpreter : Path}
    (h : Does s (.probe process spec interpreter) s') :
    verdict s = .unknown ∧ verdict s' = .probing := by
  cases h with
  | probe hu hb =>
    refine ⟨hu, ?_⟩
    obtain ⟨a, ha, hst⟩ := beginProbe_of_unknown hu
    rw [hb] at ha
    cases ha
    exact hst

theorem verdict_probeRefused {spec : LaunchSpec} {interpreter : Path}
    (h : Does s (.probeRefused spec interpreter) s') :
    verdict s = .unknown ∧ verdict s' = .unavailable := by
  cases h with
  | @probeRefused a es hu hb => exact ⟨hu, status_finishProbe a s.interpreter false⟩

theorem verdict_start {id : DocumentId} {token : Token} {process : Nat} {spec : LaunchSpec}
    {copies : List Event} (h : Does s (.start id token process spec copies) s') :
    verdict s = .available := by
  cases h
  assumption

theorem verdict_fail {id : DocumentId} {token : Token} {delivery : Delivery} {tried : List Event}
    (h : Does s (.fail id token delivery tried) s') : verdict s = .available := by
  cases h <;> assumption

/-- An attempt that parks its document leaves it waiting for a probe, or prompted. -/
inductive Parked (s : Scheduler) (d : DocumentId) : Prop where
  | probing (hst : verdict s = .probing)
  | prompted (hst : verdict s = .unavailable) (hp : isPrompted s d = true)

theorem Attempt.lasts {id : DocumentId} {decision : Decision} (h : Attempt s id l decision s')
    (hst : Lasting (verdict s)) : verdict s' = verdict s := by
  have hunlasting : ∀ st, verdict s = st → ¬ Lasting st → verdict s' = verdict s := by
    intro st he hn
    exact absurd (he ▸ hst) hn
  cases h with
  | started h => exact hunlasting _ (verdict_start h) (by simp [Lasting])
  | failed h => exact hunlasting _ (verdict_fail h) (by simp [Lasting])
  | unavailable hu hp hl => exact hl.same_verdict.trans (verdict_park hp)
  | probing hu hp => exact verdict_park hp
  | probed hp h =>
    exact hunlasting _ ((verdict_park hp).symm.trans (verdict_probe h).1) (by simp [Lasting])
  | unprobed hp h hl =>
    exact hunlasting _ ((verdict_park hp).symm.trans (verdict_probeRefused h).1) (by simp [Lasting])

theorem Launch.lasts {id : DocumentId} {decision : Decision} (h : Launch s id l decision s')
    (hst : Lasting (verdict s)) : verdict s' = verdict s := by
  cases h with
  | mk begins first rest =>
    have hmid := begins.same_verdict first
    rw [← hmid] at hst ⊢
    exact rest.lasts hst

section Rounds

variable {calm : Bool} {ids : List DocumentId} {ds : List (DocumentId × Decision)}

theorem verdict_pre {id : DocumentId} {pre : List Act}
    (hpre : pre = if calm then [Act.calm id] else []) (h : Acts s pre s') : verdict s' = verdict s := by
  cases calm with
  | false =>
    subst hpre
    cases h
    rfl
  | true =>
    subst hpre
    cases h with
    | cons first rest =>
      cases rest
      exact verdict_calm first

theorem Round.lasts (h : Round calm s ids l ds s') (hst : Lasting (verdict s)) :
    verdict s' = verdict s := by
  induction h with
  | nil => rfl
  | cons hpre first launch rest ih =>
    have hmid := verdict_pre hpre first
    rw [← hmid] at hst ⊢
    have hlaunch := launch.lasts hst
    rw [← hlaunch] at hst ⊢
    exact ih hst

end Rounds

theorem isPrompted_slot {slot : Slot} (h : s.slot? d = some slot) :
    isPrompted s d = slot.prompted := by
  rw [isPrompted, h, Option.any_some]

theorem isPrompted_put {id : DocumentId} {slot : Slot}
    (hs : s'.documents = (put s id slot).documents) (hp : slot.prompted = isPrompted s id)
    (d : DocumentId) : isPrompted s' d = isPrompted s d := by
  rw [isPrompted, Scheduler.slot?, hs]
  change ((put s id slot).slot? d).any _ = _
  rw [slot?_put]
  split
  · next he =>
    subst he
    exact hp
  · rfl

/-- Among the acts of attempts only a prompt changes the mark of prompts. -/
theorem isPrompted_does {interpreter : Path} {a : Act} (h : Does s a s')
    (ha : isAttempting interpreter a = true) (k : DocumentId) :
    isPrompted s' k = isPrompted s k ∨ isPrompted s' k = true ∧
      a = .prompt k interpreter (installPromptMessage s.options.tracerModule interpreter) := by
  cases h with
  | @prompt id slot p hs hp hg hu =>
    have hi : p = interpreter := of_decide_eq_true ha
    subst hi
    by_cases hk : id = k
    · subst hk
      exact .inr ⟨by simp [isPrompted_prompt (.prompt hs hp hg hu)], rfl⟩
    · left
      rw [isPrompted_prompt (.prompt hs hp hg hu)]
      simp [hk]
  | calm hs | release hs | kill hs | park hs | start hs | miscopy hs | refuse hs =>
    refine .inl (isPrompted_put rfl ?_ k)
    exact (isPrompted_slot hs).symm
  | probe | probeRefused => exact .inl rfl
  | _ => cases ha

theorem isPrompted_kept {interpreter : Path} (h : Acts s l s')
    (hl : ∀ a ∈ l, isAttempting interpreter a = true) {k : DocumentId}
    (hk : isPrompted s k = true) : isPrompted s' k = true := by
  induction h with
  | nil => exact hk
  | cons first _ ih =>
    refine ih (fun a ha => hl a (List.mem_cons_of_mem _ ha)) ?_
    rcases isPrompted_does first (hl _ List.mem_cons_self) k with he | ⟨he, -⟩
    · rw [he, hk]
    · exact he

/-- A document that comes out of some attempts prompted, and was not before, is prompted in them. -/
theorem mem_prompt {interpreter : Path} (h : Acts s l s')
    (hl : ∀ a ∈ l, isAttempting interpreter a = true) {k : DocumentId}
    (hbefore : isPrompted s k = false) (hafter : isPrompted s' k = true) :
    .prompt k interpreter (installPromptMessage s.options.tracerModule interpreter) ∈ l := by
  induction h with
  | nil =>
    rw [hbefore] at hafter
    cases hafter
  | @cons s mid s' a l first rest ih =>
    rcases isPrompted_does first (hl _ List.mem_cons_self) k with he | ⟨-, rfl⟩
    · have hrest := ih (fun a ha => hl a (List.mem_cons_of_mem _ ha)) (he.trans hbefore) hafter
      rw [options_does first] at hrest
      exact List.mem_cons_of_mem _ hrest
    · exact List.mem_cons_self

theorem slot?_park (h : Does s (.park d) s') :
    ∃ slot, s'.slot? d = some slot ∧ slot.isGatedOn s.interpreter = true := by
  cases h with
  | @park _ slot hs =>
    refine ⟨{ slot with gatedOn := some s.interpreter }, ?_, same_self _⟩
    rw [slot?_put, if_pos rfl]

theorem slot?_probeRefused {spec : LaunchSpec} {interpreter : Path}
    (h : Does s (.probeRefused spec interpreter) s') (k : DocumentId) :
    s'.slot? k = s.slot? k := by
  cases h
  rfl

theorem Attempt.parks {id : DocumentId} {decision : Decision} (hf : Formed s)
    (h : Attempt s id l decision s') (hp : .park d ∈ l) : Parked s' d := by
  cases h with
  | started | failed => simp at hp
  | @unavailable mid l s' hu hpark hl =>
    rcases List.mem_cons.mp hp with he | hp
    · cases he
      exact .prompted (hl.same_verdict.trans ((verdict_park hpark).trans hu)) (hl.done d (by simp))
    · obtain ⟨id, message, he⟩ := hl.only _ hp
      cases he
  | probing hu hpark => exact .probing ((verdict_park hpark).trans hu)
  | probed hpark h => exact .probing (verdict_probe h).2
  | @unprobed mid spec interpreter mid' l s' hpark h hl =>
    rcases List.mem_cons.mp hp with he | hp
    · cases he
      have hf' := (hf.does hpark).does h
      obtain ⟨slot, hs, hg⟩ := slot?_park hpark
      rw [← slot?_probeRefused h] at hs
      refine .prompted (hl.same_verdict.trans (verdict_probeRefused h).2) (hl.done d ?_)
      exact (mem_waiting hf' _ d).mpr ⟨slot, hs, hg⟩
    · obtain ⟨id, message, he⟩ := hl.only _ ((List.mem_cons.mp hp).resolve_left (by simp))
      cases he

theorem Launch.parks {id : DocumentId} {decision : Decision} (hf : Formed s)
    (h : Launch s id l decision s') (hp : .park d ∈ l) : Parked s' d := by
  cases h with
  | mk begins first rest =>
    exact rest.parks (hf.does first) ((List.mem_cons.mp hp).resolve_left begins.ne_park.symm)

theorem Attempt.awaits {id : DocumentId} (h : Attempt s id l .awaitingAvailability s') :
    .park id ∈ l ∧ verdict s' = .probing := by
  cases h with
  | probing hu hpark => exact ⟨List.mem_cons_self, (verdict_park hpark).trans hu⟩
  | probed hpark h => exact ⟨List.mem_cons_self, (verdict_probe h).2⟩

theorem Launch.awaits {id : DocumentId} (h : Launch s id l .awaitingAvailability s') :
    .park id ∈ l ∧ verdict s' = .probing := by
  cases h with
  | mk begins first rest => exact ⟨List.mem_cons_of_mem _ rest.awaits.1, rest.awaits.2⟩

theorem Parked.round {calm : Bool} {ids : List DocumentId} {ds : List (DocumentId × Decision)}
    (h : Parked s d) (hr : Round calm s ids l ds s') : Parked s' d := by
  cases h with
  | probing hst => exact .probing ((hr.lasts (.inl hst)).trans hst)
  | prompted hst hp =>
    exact .prompted ((hr.lasts (.inr hst)).trans hst) (isPrompted_kept hr.acts hr.attempting hp)

section Rounds

variable {calm : Bool} {ids : List DocumentId} {ds : List (DocumentId × Decision)}

theorem park_not_mem_pre {id : DocumentId} {pre : List Act}
    (hpre : pre = if calm then [Act.calm id] else []) : .park d ∉ pre := by
  cases calm <;> simp [hpre]

theorem Round.parks (hf : Formed s) (h : Round calm s ids l ds s') (hp : .park d ∈ l) :
    Parked s' d := by
  induction h with
  | nil => cases hp
  | cons hpre first launch rest ih =>
    have hf' := hf.acts first
    rcases List.mem_append.mp hp with hp | hp
    · rcases List.mem_append.mp hp with hp | hp
      · exact absurd hp (park_not_mem_pre hpre)
      · exact (launch.parks hf' hp).round rest
    · exact ih (hf'.acts launch.acts) hp

theorem Round.awaits (h : Round calm s ids l ds s') (hd : (d, .awaitingAvailability) ∈ ds) :
    .park d ∈ l ∧ verdict s' = .probing := by
  induction h with
  | nil => cases hd
  | cons hpre first launch rest ih =>
    rcases List.mem_cons.mp hd with he | hd
    · cases he
      obtain ⟨hp, hst⟩ := launch.awaits
      exact ⟨List.mem_append_left _ (List.mem_append_right _ hp),
        (rest.lasts (.inl hst)).trans hst⟩
    · obtain ⟨hp, hst⟩ := ih hd
      exact ⟨List.mem_append_right _ hp, hst⟩

end Rounds

/-- An attempt that comes to waiting parks its document while a probe is under way. -/
theorem Plays.awaits (h : Plays s t l s') (hd : (d, .awaitingAvailability) ∈ t.attempts s) :
    .park d ∈ l ∧ verdict s' = .probing := by
  cases h with
  | requested hm ht ha h hl | reissued hm ha h hl =>
    rw [ha] at hd
    cases List.mem_singleton.mp hd
    obtain ⟨hp, hst⟩ := hl.awaits
    exact ⟨List.mem_cons_of_mem _ hp, hst⟩
  | fired hm hr => exact hr.awaits hd
  | woken hm hv ha h hr =>
    obtain ⟨hp, hst⟩ := hr.awaits hd
    exact ⟨List.mem_cons_of_mem _ hp, hst⟩
  | edited hm | accepted hm | installing hm | closed hm =>
    simp [Turn.attempts, hm, vouched?] at hd
  | judged hm ho | uninstalled hm ho => simp [Turn.attempts, hm, vouched?, ho] at hd
  | still hq =>
    cases hq with
    | trace hm | install hm | close hm => simp [Turn.attempts, hm, vouched?] at hd
    | @reissue id hm hs =>
      have hno : (s.reissue t.env id).2 = .notRun .noRequest := by
        rw [Scheduler.reissue, update_none hs, launchLatest_none _ hs]
      simp [Turn.attempts, hm, hno] at hd

end TraceView.Proofs.Run
