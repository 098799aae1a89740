import TraceView.Proofs.Run.Course

/-!
# The slot of one document

What the acts about a document do to its slot, the mark of prompts left out. The other acts leave it
alone, so the slot after a turn follows from the slot before it and the course of the turn.
-/
namespace TraceView.Proofs.Run

open TraceView.Run
open TraceView.Proofs.KeyOrder

/-- What an act about a document does to the slot of that document. -/
inductive Local (interpreter : Path) : Option Slot → Act → Option Slot → Prop where
  | ask {x snapshot due} :
      Local interpreter x (.ask snapshot due)
        (some { x.getD .empty with request := some snapshot, due })
  | calm {slot id} :
      Local interpreter (some slot) (.calm id) (some { slot with due := none })
  | release {slot id} (ha : slot.active = none) :
      Local interpreter (some slot) (.release id) (some { slot with latest := none })
  | kill {slot id run process} (ha : slot.active = some run) (hp : run.process = some process) :
      Local interpreter (some slot) (.kill id run.token process)
        (some { slot with
          active := none, ended := some (run.token, .superseded), latest := none })
  | park {slot id} :
      Local interpreter (some slot) (.park id) (some { slot with gatedOn := some interpreter })
  | start {slot id snapshot token process spec copies scratch} (ha : slot.active = none)
      (hr : slot.request = some snapshot) (hi : spec.stdin = some snapshot.text) :
      Local interpreter (some slot) (.start id token process spec copies)
        (some { slot with
          scratch
          gatedOn := none
          latest := some token
          active := some ((TraceRun.new token interpreter snapshot.text).start process) })
  | fail {slot id snapshot token delivery tried scratch} (ha : slot.active = none)
      (hr : slot.request = some snapshot) (hd : delivery.source = snapshot.text) :
      Local interpreter (some slot) (.fail id token delivery tried)
        (some { slot with scratch, gatedOn := none })
  | accept {slot id run token delivery ended} (hl : slot.latest = some token)
      (ha : slot.active = some run)
      (hd : delivery.source = run.source ∧ delivery.interpreter = run.interpreter) :
      Local interpreter (some slot) (.accept id token delivery)
        (some { slot with latest := none, active := none, ended })
  | installs {x id a} (ha : Installs id a) :
      Local interpreter x a (x.map (gated interpreter))
  | close {slot id scratch} :
      Local interpreter (some slot) (.close id (slot.active.bind (·.process)) scratch) none

inductive Locals (interpreter : Path) : Option Slot → List Act → Option Slot → Prop where
  | nil (x) : Locals interpreter x [] x
  | cons {x y z a l} (first : Local interpreter x a y) (rest : Locals interpreter y l z) :
      Locals interpreter x (a :: l) z

variable {s s' : Scheduler} {a : Act} {d : DocumentId} {slot : Slot}

theorem bare_some (hs : s.slot? d = some slot) : bare s d = some (core slot) := by
  rw [bare, hs]
  rfl

theorem bare_put (s : Scheduler) (d : DocumentId) (slot : Slot) {s' : Scheduler}
    (hd : s'.documents = (put s d slot).documents) : bare s' d = some (core slot) := by
  refine bare_some ?_
  rw [Scheduler.slot?, hd]
  exact (slot?_put s d slot d).trans (if_pos rfl)

theorem bare_gated (s : Scheduler) (interpreter : Path) (d : DocumentId) {s' : Scheduler}
    (hd : s'.documents = (s.update d (gated interpreter)).documents) :
    bare s' d = (bare s d).map (gated interpreter) := by
  have hs' : s'.slot? d = (s.slot? d).map (gated interpreter) := by
    rw [Scheduler.slot?, hd]
    exact (slot?_update s d _ d).trans (if_pos rfl)
  have hcore : ∀ slot, core (gated interpreter slot) = gated interpreter (core slot) := by
    intro slot
    rw [gated, apply_ite core]
    rfl
  rw [bare, hs', bare, Option.map_map, Option.map_map]
  exact congrArg (Option.map · _) (funext hcore)

theorem bare_erased (s : Scheduler) (d : DocumentId) {s' : Scheduler}
    (hd : s'.documents = Keyed.erase s.documents d) : bare s' d = none := by
  rw [bare, Scheduler.slot?, hd, Keyed.get?_erase, if_pos rfl]
  rfl

section Fields

variable {α : Type} (f : Slot → Option α) {s' : Scheduler}

theorem bind_slot (hs : s.slot? d = some slot) : (bare s d).bind f = f (core slot) := by
  rw [bare_some hs, Option.bind_some]

theorem bind_put (hd : s'.documents = (put s d slot).documents) :
    (bare s' d).bind f = f (core slot) := by
  rw [bare_put s d slot hd, Option.bind_some]

/-- An install leaves what is not read off the gate. -/
theorem bind_gated {interpreter : Path}
    (hd : s'.documents = (s.update d (gated interpreter)).documents)
    (hf : ∀ slot p, f { slot with gatedOn := p } = f slot) :
    (bare s' d).bind f = (bare s d).bind f := by
  rw [bare_gated s interpreter d hd]
  cases bare s d with
  | none => rfl
  | some slot =>
    rw [Option.map_some, Option.bind_some, Option.bind_some, gated]
    split
    · exact hf slot _
    · rfl

theorem bind_erased (hd : s'.documents = Keyed.erase s.documents d) :
    (bare s' d).bind f = none := by
  rw [bare_erased s d hd, Option.bind_none]

end Fields

/-- The text of the request is what the process reads. -/
theorem stdin_prepare {env : Surroundings} {options : Options} {snapshot : Snapshot}
    {scratch : Option Path} {asked : Nat} {spec : LaunchSpec}
    (h : (prepare env options snapshot scratch asked).spec = .ok spec) :
    spec.stdin = some snapshot.text := by
  have hcopy : ∀ dir asked es, (writeCopy env options snapshot dir asked es).spec = .ok spec →
      spec.stdin = some snapshot.text := by
    intro dir asked es h
    rw [writeCopy] at h
    cases hw : env.write (snapshot.copyPath dir) with
    | some fault =>
      rw [hw] at h
      cases h
    | none =>
      rw [hw] at h
      cases h
      rfl
  unfold prepare at h
  split at h
  · split at h
    · exact hcopy _ _ _ h
    · split at h
      · cases h
      · exact hcopy _ _ _ h
  · cases h
    rfl

theorem local_put {s s' : Scheduler} {slot slot' : Slot} (hs : s.slot? d = some slot)
    (h : Local s.interpreter (some (core slot)) a (some (core slot')))
    (hd : s'.documents = (put s d slot').documents) :
    Local s.interpreter (bare s d) a (bare s' d) := by
  rwa [bare_some hs, bare_put s d slot' hd]

theorem local_installs {s s' : Scheduler} (ha : Installs d a)
    (hd : s'.documents = (s.update d (gated s.interpreter)).documents) :
    Local s.interpreter (bare s d) a (bare s' d) := by
  rw [bare_gated s s.interpreter d hd]
  exact .installs ha

theorem local_close {s s' : Scheduler} {scratch : Option Path} (hs : s.slot? d = some slot)
    (hd : s'.documents = Keyed.erase s.documents d) :
    Local s.interpreter (bare s d) (.close d (slot.active.bind (·.process)) scratch)
      (bare s' d) := by
  rw [bare_erased s d hd, bare_some hs]
  exact @Local.close _ (core slot) _ _

theorem local_does (h : Does s a s') (hd : a.subject = some d) :
    Local s.interpreter (bare s d) a (bare s' d) := by
  cases h with
  | @ask snapshot due =>
    cases hd
    have hs' := bare_put s snapshot.document
      { (s.slot? snapshot.document).getD .empty with request := some snapshot, due } rfl
    have hslot : core { (s.slot? snapshot.document).getD .empty with
        request := some snapshot, due } =
          { (bare s snapshot.document).getD .empty with request := some snapshot, due } := by
      rw [bare]
      cases s.slot? snapshot.document <;> rfl
    rw [hslot] at hs'
    exact hs' ▸ .ask
  | @calm _ slot hs =>
    cases hd
    exact local_put hs (@Local.calm _ (core slot) _) rfl
  | @release _ slot hs ha =>
    cases hd
    exact local_put hs (@Local.release _ (core slot) _ ha) rfl
  | @kill _ slot run process es hs ha hp hes =>
    cases hd
    exact local_put hs (@Local.kill _ (core slot) _ _ _ ha hp) rfl
  | @park _ slot hs =>
    cases hd
    exact local_put hs (@Local.park _ (core slot) _) rfl
  | @start env p _ slot snapshot spec es hs ha hr hv hp hok hes =>
    cases hd
    subst hp
    exact local_put hs (@Local.start _ (core slot) _ _ _ _ _ _ _ ha hr (stdin_prepare hok)) rfl
  | @miscopy env p _ slot snapshot fault delivery es hs ha hr hv hp hno hdel hes =>
    cases hd
    exact local_put hs
      (@Local.fail _ (core slot) _ _ _ _ _ _ ha hr (congrArg Delivery.source hdel)) rfl
  | @refuse env p _ slot snapshot spec cause delivery es hs ha hr hv hp hok hdel hes =>
    cases hd
    exact local_put hs
      (@Local.fail _ (core slot) _ _ _ _ _ _ ha hr (congrArg Delivery.source hdel)) rfl
  | @accept _ token slot run outcome delivery es hs hl ha hdel hes =>
    cases hd
    exact local_put hs (@Local.accept _ (core slot) _ _ _ _ _ hl ha
      ⟨congrArg Delivery.source hdel, congrArg Delivery.interpreter hdel⟩) rfl
  | install hb hes =>
    cases hd
    exact local_installs .install rfl
  | installRefused hb hes =>
    cases hd
    exact local_installs .installRefused rfl
  | @close _ slot es hs hes =>
    cases hd
    exact local_close hs rfl
  | _ => cases hd

/-- The slot of a document after some acts follows from those that are about it. -/
theorem locals_acts {l : List Act} (h : Acts s l s') (d : DocumentId) :
    Locals s.interpreter (bare s d) (about d l) (bare s' d) := by
  induction h with
  | nil => exact .nil _
  | @cons s mid s' a l first rest ih =>
    rw [interpreter_does first] at ih
    by_cases hd : a.subject = some d
    · rw [about_own hd]
      exact .cons (local_does first hd) ih
    · rw [about_other hd, ← bare_does first hd]
      exact ih

section Attempts

variable {interpreter : Path} {x y z : Option Slot} {b e : Act}

theorem Local.begins (h : Local interpreter x b y) (hb : Begins d b) :
    ∃ slot ended, x = some slot ∧
      y = some { slot with latest := none, active := none, ended } := by
  cases hb with
  | release =>
    cases h with
    | @release slot _ ha =>
      refine ⟨slot, slot.ended, rfl, ?_⟩
      rw [← ha]
    | installs hi => cases hi
  | kill =>
    cases h with
    | kill ha hp => exact ⟨_, _, rfl, rfl⟩
    | installs hi => cases hi

/-- What an attempt makes of the slot of its document: a run of what was last asked for, or no
run. -/
inductive Ran (interpreter : Path) (d : DocumentId) (slot : Slot) : Act → Slot → Prop where
  | started {snapshot token process spec copies ended scratch}
      (hr : slot.request = some snapshot) (hi : spec.stdin = some snapshot.text) :
      Ran interpreter d slot (.start d token process spec copies)
        { slot with
          ended
          scratch
          gatedOn := none
          latest := some token
          active := some ((TraceRun.new token interpreter snapshot.text).start process) }
  | failed {snapshot token delivery tried ended scratch} (hr : slot.request = some snapshot)
      (hd : delivery.source = snapshot.text) :
      Ran interpreter d slot (.fail d token delivery tried)
        { slot with ended, scratch, gatedOn := none, latest := none, active := none }
  | parked {ended} :
      Ran interpreter d slot (.park d)
        { slot with ended, gatedOn := some interpreter, latest := none, active := none }

theorem Ran.request {slot slot' : Slot} (h : Ran interpreter d slot e slot') :
    slot'.request = slot.request := by
  cases h <;> rfl

theorem Ran.due {slot slot' : Slot} (h : Ran interpreter d slot e slot') :
    slot'.due = slot.due := by
  cases h <;> rfl

theorem Locals.attempt (h : Locals interpreter x [b, e] z) (hb : Begins d b) (he : Ends d e) :
    ∃ slot slot', x = some slot ∧ z = some slot' ∧ Ran interpreter d slot e slot' := by
  cases h with
  | cons first rest =>
    cases rest with
    | cons second rest =>
      cases rest
      obtain ⟨slot, ended, rfl, rfl⟩ := first.begins hb
      cases he with
      | start =>
        cases second with
        | start ha hr hi => exact ⟨slot, _, rfl, rfl, .started hr hi⟩
        | installs hi => cases hi
      | fail =>
        cases second with
        | fail ha hr hd => exact ⟨slot, _, rfl, rfl, .failed hr hd⟩
        | installs hi => cases hi
      | park =>
        cases second with
        | park => exact ⟨slot, _, rfl, rfl, .parked⟩
        | installs hi => cases hi

end Attempts

/-- Why a turn attempts a document, the acts before the attempt and the slot it finds. -/
inductive Tries (s : Scheduler) (t : Turn) (d : DocumentId) (x : Option Slot) :
    List Act → Slot → Prop where
  | requested {snapshot trigger} (hm : t.move = .request snapshot trigger)
      (ht : trigger ≠ .change) (hd : snapshot.document = d) :
      Tries s t d x [.ask snapshot none]
        { x.getD .empty with request := some snapshot, due := none }
  | reissued {slot : Slot} (hm : t.move = .reissue d) (hx : x = some slot) :
      Tries s t d x [.calm d] { slot with due := none }
  | fired {slot : Slot} {due} (hm : t.move = .tick) (hx : x = some slot) (hd : slot.due = some due)
      (hn : due ≤ t.now) : Tries s t d x [.calm d] { slot with due := none }
  | woken {slot : Slot} {completion interpreter} (hm : t.move = .complete completion)
      (hv : vouched? completion = some interpreter) (hx : x = some slot)
      (hg : slot.isGatedOn interpreter = true) : Tries s t d x [] slot

/-- What a turn makes of the slot of a document, and by which acts. -/
inductive Fares (s : Scheduler) (t : Turn) (d : DocumentId) (x : Option Slot) (l : List Act)
    (z : Option Slot) : Prop where
  | edited {snapshot} (hm : t.move = .request snapshot .change) (hd : snapshot.document = d)
      (hl : l = [.ask snapshot (some (t.now + s.options.debounce))])
      (hz : z = some { x.getD .empty with
        request := some snapshot, due := some (t.now + s.options.debounce) })
  | attempted {slot slot' : Slot} {pre b e} (hw : Tries s t d x pre slot) (ha : d ∈ t.attempted s)
      (hb : Begins d b) (hl : l = pre ++ [b, e]) (hz : z = some slot')
      (hr : Ran s.interpreter d slot e slot')
  | accepted {slot : Slot} {token outcome delivery ended}
      (hm : t.move = .complete ⟨.trace d token, outcome⟩) (hl : l = [.accept d token delivery])
      (hx : x = some slot) (ht : slot.latest = some token)
      (hz : z = some { slot with latest := none, active := none, ended })
  | installing {a : Act} (hm : t.move = .install d) (ha : Installs d a) (hl : l = [a])
      (hz : z = x.map (gated s.interpreter))
  | closed {process scratch} (hm : t.move = .close d) (hl : l = [.close d process scratch])
      (hz : z = none)
  | aside (h : Aside s t d) (hl : l = []) (hz : z = x)

theorem mem_attempted_request {snapshot : Snapshot} {trigger : Trigger} {t : Turn}
    (hm : t.move = .request snapshot trigger) (ht : trigger ≠ .change) :
    snapshot.document ∈ t.attempted s := by
  cases trigger with
  | change => exact absurd rfl ht
  | save | explicit => simp [Turn.attempted, Turn.attempts, hm]

/-- How a document fares in a turn follows from the course of the turn. -/
theorem Plays.fares {t : Turn} {l : List Act} (hf : Formed s) (h : Plays s t l (t.apply s))
    (d : DocumentId) : Fares s t d (bare s d) (about d l) (bare (t.apply s) d) := by
  have hlocals := locals_acts h.acts d
  have hcourse := h.course hf d
  generalize about d l = course at hlocals hcourse ⊢
  generalize bare (t.apply s) d = z at hlocals ⊢
  generalize hx : bare s d = x at hlocals ⊢
  cases hcourse with
  | edited hm hd =>
    cases hlocals with
    | cons first rest =>
      cases rest
      cases first with
      | ask => exact .edited hm hd rfl rfl
      | installs hi => cases hi
  | requested hm ht hd hb he =>
    cases hlocals with
    | cons first rest =>
      cases first with
      | ask =>
        obtain ⟨slot, slot', hs, hz, hran⟩ := rest.attempt hb he
        cases hs
        exact .attempted (.requested hm ht hd) (hd ▸ mem_attempted_request hm ht) hb rfl hz hran
      | installs hi => cases hi
  | reissued hm hb he =>
    cases hlocals with
    | cons first rest =>
      cases first with
      | calm =>
        obtain ⟨slot, slot', hs, hz, hran⟩ := rest.attempt hb he
        cases hs
        refine .attempted (.reissued hm rfl) ?_ hb rfl hz hran
        simp [Turn.attempted, Turn.attempts, hm]
      | installs hi => cases hi
  | fired hm hexp ha hb he =>
    obtain ⟨slot, hs, hany⟩ := (mem_expired hf t.now d).mp hexp
    obtain ⟨due, hdue, hle⟩ := (Option.any_eq_true _ _).mp hany
    obtain rfl : some (core _) = x := (bare_some hs).symm.trans hx
    cases hlocals with
    | cons first rest =>
      cases first with
      | calm =>
        obtain ⟨mid, slot', hmid, hz, hran⟩ := rest.attempt hb he
        cases hmid
        exact .attempted (.fired hm rfl hdue (of_decide_eq_true hle)) ha hb rfl hz hran
      | installs hi => cases hi
  | woken hm hv hs hg ha hb he =>
    obtain rfl : some (core _) = x := (bare_some hs).symm.trans hx
    obtain ⟨mid, slot', hmid, hz, hran⟩ := hlocals.attempt hb he
    cases hmid
    exact .attempted (.woken hm hv rfl hg) ha hb rfl hz hran
  | accepted hm hd =>
    cases hlocals with
    | cons first rest =>
      cases rest
      cases first with
      | accept ht => exact .accepted hm rfl rfl ht rfl
      | installs hi => cases hi
  | installing hm hi =>
    cases hlocals with
    | cons first rest =>
      cases rest
      cases hi with
      | install | installRefused =>
        cases first
        exact .installing hm (by constructor) rfl rfl
  | closed hm =>
    cases hlocals with
    | cons first rest =>
      cases rest
      cases first with
      | close => exact .closed hm rfl rfl
      | installs hi => cases hi
  | aside h =>
    cases hlocals
    exact .aside h rfl rfl

end TraceView.Proofs.Run
