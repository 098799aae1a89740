import Mathlib.Data.List.Pairwise
import TraceView.Proofs.Run.SingleFlight
import TraceView.Proofs.Run.Waiting

/-!
# Documents do not interfere

A move that names one document leaves the slots of all others as they are, kills no process but
that document's and starts none for another. Documents share what is known of the interpreter, and
when a probe of it cannot be started those that wait for it are prompted. Nothing else gets across.
-/
namespace TraceView.Proofs.Run

open TraceView.Run
open TraceView.Proofs.KeyOrder

/-- Moves that name a document. -/
inductive Names (d : DocumentId) : Move → Prop where
  | request {snapshot trigger} (h : snapshot.document = d) : Names d (.request snapshot trigger)
  | reissue : Names d (.reissue d)
  | completed {token outcome} : Names d (.complete ⟨.trace d token, outcome⟩)
  | install : Names d (.install d)
  | close : Names d (.close d)

/-- The document a process is for; a probe is for none. -/
def servedBy : LaunchTag → Option DocumentId
  | .trace d _ => some d
  | .install _ d => some d
  | .probe _ => none

/-- What a launch was asked for, whether or not it was refused. -/
def asked? : Event → Option LaunchTag
  | .launched _ _ tag => some tag
  | .refused _ tag => some tag
  | _ => none

/-- The scratch directory in which an event changes something. -/
def changed? : Event → Option Path
  | .scratchMade dir => some dir
  | .copyWritten dir _ _ => some dir
  | .scratchRemoved dir => some dir
  | _ => none

def addressee : Notice → DocumentId
  | .runStarted d _ => d
  | .delivered d _ _ => d
  | .installPrompt d _ _ => d
  | .installFinished d _ _ _ => d

def scratchOf (s : Scheduler) (d : DocumentId) : Option Path := (s.slot? d).bind (·.scratch)

/-- A process of that number was started for what the tag says. -/
def Started (s : Scheduler) (process : Nat) (tag : LaunchTag) : Prop :=
  ∃ spec, .launched process spec tag ∈ s.events

/-- A probe of the configured interpreter could not be started. -/
def ProbeRefused (s : Scheduler) (t : Turn) : Prop :=
  ∃ spec, .refused spec (.probe s.interpreter) ∈ t.did s

/-- What a turn may do if it concerns a document: nothing to any other but to prompt it when a
probe is refused for which both wait. -/
structure Isolated (s : Scheduler) (t : Turn) (d : DocumentId) : Prop where
  slots : ∀ b, b ≠ d → bare (t.apply s) b = bare s b
  marks : ∀ b, b ≠ d → (t.apply s).slot? b = s.slot? b ∨
    ∃ message, .installPrompt b s.interpreter message ∈ t.told s
  kills : ∀ process, .killed process ∈ t.did s →
    ∃ token, ∀ tag, Started (t.apply s) process tag ↔ tag = .trace d token
  launches : ∀ e tag, e ∈ t.did s → asked? e = some tag →
    servedBy tag = some d ∨ tag = .probe s.interpreter
  files : ∀ e dir, e ∈ t.did s → changed? e = some dir →
    scratchOf s d = some dir ∨ scratchOf (t.apply s) d = some dir
  notices : ∀ notice, notice ∈ t.told s → addressee notice = d ∨
    ∃ b message, notice = .installPrompt b s.interpreter message ∧
      gateOf s b = some s.interpreter ∧ ProbeRefused s t
  known : ∀ p, ¬ s.interpreter.same p = true →
    (t.apply s).availability.knowledge p = s.availability.knowledge p

variable {s s' : Scheduler} {a : Act} {l : List Act} {t : Turn} {d : DocumentId}

def number? : Event → Option Nat
  | .launched process _ _ => some process
  | _ => none

/-- Processes are numbered in the order of their starts, and the run of a document owns one that
was started for it. -/
structure Accounted (s : Scheduler) : Prop where
  numbered : s.events.filterMap number? = List.range s.processes
  owned : ∀ d process token, (process, token) ∈ flights (bare s d) →
    Started s process (.trace d token)

theorem Started.does {process : Nat} {tag : LaunchTag} (h : Started s process tag)
    (hd : Does s a s') : Started s' process tag := by
  obtain ⟨spec, he⟩ := h
  obtain ⟨es, hes, -⟩ := events_does hd
  exact ⟨spec, hes ▸ List.mem_append_left es he⟩

theorem Started.acts {process : Nat} {tag : LaunchTag} (h : Started s process tag)
    (hl : Acts s l s') : Started s' process tag := by
  induction hl with
  | nil => exact h
  | cons first _ ih => exact ih (h.does first)

/-- A number stands for one process. -/
theorem Accounted.unique (h : Accounted s) {process : Nat} {tag tag' : LaunchTag}
    (hs : Started s process tag) (hs' : Started s process tag') : tag = tag' := by
  obtain ⟨spec, he⟩ := hs
  obtain ⟨spec', he'⟩ := hs'
  by_contra hne
  have hnodup : (s.events.filterMap number?).Nodup := h.numbered ▸ List.nodup_range
  have hpair := List.pairwise_filterMap.mp hnodup
  have hsymm : Std.Symm fun e e' : Event =>
      ∀ n, number? e = some n → ∀ n', number? e' = some n' → n ≠ n' :=
    ⟨fun _ _ hne n hn n' hn' => (hne n' hn' n hn).symm⟩
  have hdistinct := hpair.forall he he' fun heq => hne (Event.launched.inj heq).2.2
  exact hdistinct process rfl process rfl rfl

theorem numbers_does (h : Does s a s') :
    List.range s.processes ++ a.effects.filterMap number? = List.range s'.processes := by
  have hcopies : ∀ {env options snapshot scratch asked},
      (prepare env options snapshot scratch asked).events.filterMap number? = [] :=
    filterMap_prepare (by rintro _ ⟨⟩ <;> rfl) ..
  cases h with
  | probe | install => exact List.range_succ.symm
  | start hs ha hr hv hp =>
    subst hp
    rw [Act.effects, List.filterMap_append, hcopies]
    exact List.range_succ.symm
  | miscopy hs ha hr hv hp =>
    subst hp
    rw [Act.effects, hcopies]
    exact List.append_nil _
  | refuse hs ha hr hv hp =>
    subst hp
    rw [Act.effects, List.filterMap_append, hcopies]
    exact List.append_nil _
  | @close id slot =>
    cases slot.active.bind (·.process) <;> cases slot.scratch <;> exact List.append_nil _
  | @installed interpreter id success => cases success <;> exact List.append_nil _
  | _ => exact List.append_nil _

/-- The run of a document is the one it had, or has just been started. -/
theorem flights_after {interpreter : Path} {x y : Option Slot} (h : Local interpreter x a y)
    {process : Nat} {token : Token} (hfly : (process, token) ∈ flights y) :
    (process, token) ∈ flights x ∨ ∃ d spec copies, a = .start d token process spec copies := by
  by_cases hm : a.marks = []
  · exact .inl (flights_local h hm ▸ hfly)
  · cases h with
    | start =>
      simp only [flights, Option.bind_some, Option.toList_some, List.flatMap_cons,
        List.flatMap_nil, List.append_nil, TraceRun.start, TraceRun.new, List.map_cons,
        List.map_nil, List.mem_singleton, Prod.mk.injEq] at hfly
      obtain ⟨rfl, rfl⟩ := hfly
      exact .inr ⟨_, _, _, rfl⟩
    | kill | accept | close => simp [flights] at hfly
    | installs ha => cases ha <;> exact absurd rfl hm
    | _ => exact absurd rfl hm

theorem Accounted.does (h : Accounted s) (hd : Does s a s') : Accounted s' where
  numbered := by
    obtain ⟨es, he, hes⟩ := events_does hd
    have hnumbers := numbers_does hd
    rw [← hes, filterMap_effects fun _ => rfl] at hnumbers
    rw [he, List.filterMap_append, h.numbered, hnumbers]
  owned := by
    intro d process token hfly
    by_cases hid : a.subject = some d
    · rcases flights_after (local_does hd hid) hfly with hfly | ⟨d', spec, copies, rfl⟩
      · exact (h.owned d process token hfly).does hd
      · cases hid
        obtain ⟨es, he, hes⟩ := events_does hd
        have hmem : .launched process spec (.trace d token) ∈ effects es := by
          rw [hes, Act.effects]
          exact List.mem_append_right _ (List.mem_singleton_self _)
        exact ⟨spec, he ▸ List.mem_append_right _ (mem_effects.mp hmem).1⟩
    · rw [bare_does hd hid] at hfly
      exact (h.owned d process token hfly).does hd

theorem Accounted.acts (h : Accounted s) (hl : Acts s l s') : Accounted s' := by
  induction hl with
  | nil => exact h
  | cons first _ ih => exact ih (h.does first)

theorem accounted_new (availability : Availability) (options : Options) :
    Accounted (.new availability options) where
  numbered := rfl
  owned := by
    intro d process token hfly
    cases hfly

theorem accounted_play (hf : Formed s) (h : Accounted s) (turns : List Turn) :
    Accounted (play s turns) := by
  induction turns generalizing s with
  | nil => exact h
  | cons t turns ih =>
    obtain ⟨l, hl⟩ := turn_unfolds hf t
    exact ih (hf.acts hl.acts) (h.acts hl.acts)

/-- What an act may do to the world, by the document it is about and what that document has. -/
inductive Concerns (s s' : Scheduler) (a : Act) : Event → Prop where
  | asked {e tag} (h : asked? e = some tag) (hd : servedBy tag = a.subject)
      (hp : a.subject = none → tag = .probe s.interpreter) : Concerns s s' a e
  | killed {d process token} (hd : a.subject = some d)
      (hf : (process, token) ∈ flights (bare s d)) : Concerns s s' a (.killed process)
  | copied {d e dir} (hd : a.subject = some d) (h : changed? e = some dir)
      (hs : scratchOf s' d = some dir) : Concerns s s' a e
  | removed {d process dir} (ha : a = .close d process (some dir))
      (hs : scratchOf s d = some dir) : Concerns s s' a (.scratchRemoved dir)

theorem changed_writeCopy (env : Surroundings) (options : Options) (snapshot : Snapshot)
    (dir : Path) (asked : Nat) {es : List Event} (h : ∀ e ∈ es, changed? e = some dir) :
    ∀ e ∈ (writeCopy env options snapshot dir asked es).events, ∃ dir', changed? e = some dir' ∧
      (writeCopy env options snapshot dir asked es).scratch = some dir' := by
  rw [writeCopy]
  cases env.write (snapshot.copyPath dir) with
  | some fault => exact fun e he => ⟨dir, h e he, rfl⟩
  | none =>
    intro e he
    refine ⟨dir, ?_, rfl⟩
    rcases List.mem_append.mp he with he | he
    · exact h e he
    · cases List.mem_singleton.mp he
      rfl

/-- Copies are made in the directory that is held afterwards. -/
theorem changed_prepare (env : Surroundings) (options : Options) (snapshot : Snapshot)
    (scratch : Option Path) (asked : Nat) :
    ∀ e ∈ (prepare env options snapshot scratch asked).events, ∃ dir, changed? e = some dir ∧
      (prepare env options snapshot scratch asked).scratch = some dir := by
  unfold prepare
  split
  · split
    · exact changed_writeCopy _ _ _ _ _ (by simp)
    · split
      · simp
      · refine changed_writeCopy _ _ _ _ _ fun e he => ?_
        cases List.mem_singleton.mp he
        rfl
  · simp

theorem flight_of_process {slot : Slot} {process : Nat}
    (hs : s.slot? d = some slot) (hp : slot.active.bind (·.process) = some process) :
    ∃ token, (process, token) ∈ flights (bare s d) := by
  obtain ⟨run, ha, hp⟩ := Option.bind_eq_some_iff.mp hp
  refine ⟨run.token, ?_⟩
  rw [flights_active (bare_some hs) ha hp]
  exact List.mem_singleton_self _

theorem scratchOf_put {s' : Scheduler} {slot : Slot}
    (hd : s'.documents = (put s d slot).documents) : scratchOf s' d = slot.scratch := by
  have hs : s'.slot? d = (put s d slot).slot? d := by rw [Scheduler.slot?, hd, Scheduler.slot?]
  rw [scratchOf, hs, slot?_put, if_pos rfl]
  rfl

/-- Every effect of an act concerns the document that the act is about. -/
theorem Does.concerns (h : Does s a s') {e : Event} (he : e ∈ a.effects) :
    Concerns s s' a e := by
  cases h with
  | probe | probeRefused =>
    cases List.mem_singleton.mp he
    exact .asked rfl rfl fun _ => rfl
  | install | installRefused =>
    cases List.mem_singleton.mp he
    exact .asked rfl rfl (by simp [Act.subject])
  | @kill id slot run process es hs ha hp =>
    cases List.mem_singleton.mp he
    obtain ⟨token, hfly⟩ := flight_of_process hs (by rw [ha]; exact hp)
    exact .killed rfl hfly
  | @start env p id slot snapshot spec es hs ha hr hv hp =>
    subst hp
    rcases List.mem_append.mp he with he | he
    · obtain ⟨dir, hdir, hscratch⟩ := changed_prepare _ _ _ _ _ e he
      exact .copied rfl hdir ((scratchOf_put rfl).trans hscratch)
    · cases List.mem_singleton.mp he
      exact .asked rfl rfl (by simp [Act.subject])
  | @miscopy env p id slot snapshot fault delivery es hs ha hr hv hp =>
    subst hp
    obtain ⟨dir, hdir, hscratch⟩ := changed_prepare _ _ _ _ _ e he
    exact .copied rfl hdir ((scratchOf_put rfl).trans hscratch)
  | @refuse env p id slot snapshot spec cause delivery es hs ha hr hv hp =>
    subst hp
    rcases List.mem_append.mp he with he | he
    · obtain ⟨dir, hdir, hscratch⟩ := changed_prepare _ _ _ _ _ e he
      exact .copied rfl hdir ((scratchOf_put rfl).trans hscratch)
    · cases List.mem_singleton.mp he
      exact .asked rfl rfl (by simp [Act.subject])
  | @close id slot es hs =>
    rcases List.mem_append.mp he with he | he
    · obtain ⟨process, hp, rfl⟩ := List.mem_map.mp he
      obtain ⟨token, hfly⟩ := flight_of_process hs (Option.mem_toList.mp hp)
      exact .killed rfl hfly
    · obtain ⟨dir, hdir, rfl⟩ := List.mem_map.mp he
      have hslot : slot.scratch = some dir := Option.mem_toList.mp hdir
      refine .removed (by rw [hslot]) ?_
      rw [scratchOf, hs]
      exact hslot
  | _ => cases he

/-- The acts of a turn that names a document: one act, or an attempt after one that leaves the
world alone. -/
inductive Own (s : Scheduler) (d : DocumentId) : List Act → Scheduler → Prop where
  | idle {s' : Scheduler} (h : Does s .idle s') : Own s d [.idle] s'
  | single {b : Act} {s' : Scheduler} (hb : b.subject = some d) (h : Does s b s') : Own s d [b] s'
  | attempt {b : Act} {mid l decision} {s' : Scheduler} (hb : b.subject = some d)
      (he : b.effects = []) (h : Does s b mid) (hl : Launch mid d l decision s') :
      Own s d (b :: l) s'

theorem Plays.own (h : Plays s t l s') (hn : Names d t.move) : Own s d l s' := by
  cases h with
  | edited hm h =>
    rw [hm] at hn
    cases hn with
    | request hd => exact .single (congrArg some hd) h
  | requested hm ht ha h hl =>
    rw [hm] at hn
    cases hn with
    | request hd =>
      subst hd
      exact .attempt rfl rfl h hl
  | reissued hm ha h hl =>
    rw [hm] at hn
    cases hn
    exact .attempt rfl rfl h hl
  | accepted hm hd h =>
    rw [hm] at hn
    cases hn
    exact .single rfl h
  | installing hm ha h =>
    rw [hm] at hn
    cases hn
    exact .single ha.subject h
  | closed hm h =>
    rw [hm] at hn
    cases hn
    exact .single rfl h
  | still hq hes => exact .idle (.idle hes)
  | fired hm | judged hm | uninstalled hm =>
    rw [hm] at hn
    cases hn
  | woken hm hv =>
    rw [hm] at hn
    cases hn
    cases hv

/-- Acts that are about one document or about the interpreter; others are prompted only when a
probe is refused. -/
structure Confined (s : Scheduler) (d : DocumentId) (l : List Act) : Prop where
  own : ∀ a ∈ l, ∀ b, a.subject = some b → b = d
  beside : ∀ a ∈ l, a.subject = none → isAttempting s.interpreter a = true ∨ a = .idle
  prompts : ∀ b p message, .prompt b p message ∈ l →
    b = d ∨ ∃ spec, .probeRefused spec s.interpreter ∈ l

theorem Attempt.confined {decision : Decision} (h : Attempt s d l decision s') :
    Confined s d l := by
  have hattempting := h.attempting
  obtain ⟨e, he, habout⟩ := h.about
  refine ⟨fun a ha b hb => ?_, fun a ha _ => .inl (hattempting a ha), fun b p message hp => ?_⟩
  · have hmem : a ∈ Run.about b l := mem_about.mpr ⟨ha, hb⟩
    rw [habout] at hmem
    split at hmem
    · next hd => exact hd.symm
    · cases hmem
  · cases h with
    | started | failed | probing | probed => simp at hp
    | unavailable hu hpark hl =>
      have hp' := (List.mem_cons.mp hp).resolve_left (by simp)
      exact .inl (List.mem_singleton.mp (hl.among b p message hp'))
    | unprobed hpark hno hl =>
      have hi := interpreter_does hpark
      cases hno
      rw [← hi]
      exact .inr ⟨_, List.mem_cons_of_mem _ List.mem_cons_self⟩

theorem Confined.cons (h : Confined s d l) (ha : a.subject = some d) : Confined s d (a :: l) where
  own := by
    intro b hb k hk
    rcases List.mem_cons.mp hb with rfl | hb
    · exact (Option.some.inj (ha.symm.trans hk)).symm
    · exact h.own b hb k hk
  beside := by
    intro b hb hnone
    rcases List.mem_cons.mp hb with rfl | hb
    · exact absurd (ha.symm.trans hnone) (by simp)
    · exact h.beside b hb hnone
  prompts := by
    intro b p message hp
    rcases List.mem_cons.mp hp with rfl | hp
    · cases ha
    · rcases h.prompts b p message hp with hd | ⟨spec, hspec⟩
      · exact .inl hd
      · exact .inr ⟨spec, List.mem_cons_of_mem _ hspec⟩

theorem Confined.congr (h : Confined s d l) (hi : s'.interpreter = s.interpreter) :
    Confined s' d l :=
  ⟨h.own, hi ▸ h.beside, hi ▸ h.prompts⟩

theorem Own.confined (h : Own s d l s') : Confined s d l := by
  have hnil : Confined s d [] := ⟨by simp, by simp, by simp⟩
  cases h with
  | idle h => exact ⟨by simp [Act.subject], by simp, by simp⟩
  | single hb h => exact hnil.cons hb
  | attempt hb he h hl =>
    cases hl with
    | mk begins first rest =>
      have hi := (interpreter_does first).trans (interpreter_does h)
      exact ((rest.confined.congr hi.symm).cons begins.subject).cons hb

theorem Confined.elsewhere (h : Confined s d l) {b : DocumentId} (hb : b ≠ d) :
    ∀ a ∈ l, a.subject ≠ some b :=
  fun a ha hs => hb (h.own a ha b hs)

theorem slot?_beside {b : DocumentId} (h : Does s a s') (hb : a.subject ≠ some b)
    (h0 : a.subject = none → isAttempting s.interpreter a = true ∨ a = .idle)
    (hp : ∀ p message, a ≠ .prompt b p message) : s'.slot? b = s.slot? b := by
  cases h with
  | idle | probe | probeRefused => rfl
  | @ask snapshot =>
    exact (slot?_put s _ _ b).trans (if_neg fun he : snapshot.document = b => hb (congrArg some he))
  | @calm id | @release id | @kill id | @park id | @start _ _ id | @miscopy _ _ id
  | @refuse _ _ id | @accept id =>
    exact (slot?_put s _ _ b).trans (if_neg fun he : id = b => hb (congrArg some he))
  | @prompt id slot interpreter hs =>
    exact (slot?_put s _ _ b).trans (if_neg fun he : id = b => hp _ _ (by rw [he]))
  | @install id | @installRefused id =>
    exact (slot?_update s id _ b).trans (if_neg fun he : id = b => hb (congrArg some he))
  | @close id =>
    exact (Keyed.get?_erase s.documents id b).trans
      (if_neg fun he : id = b => hb (congrArg some he))
  | judge | installed => simp [isAttempting, Act.subject] at h0

/-- Nothing is learnt about other interpreters. -/
theorem knowledge_beside {p : Path} (hf : Formed s) (h : Does s a s')
    (h0 : a.subject = none → isAttempting s.interpreter a = true ∨ a = .idle)
    (hp : ¬ s.interpreter.same p = true) :
    s'.availability.knowledge p = s.availability.knowledge p := by
  have hset : ∀ (av : Availability) k, (av.set s.interpreter k).knowledge p = av.knowledge p := by
    intro av k
    rw [knowledge_set, if_neg hp]
  have hbegin : ∀ {av av' : Availability}, av.beginProbe? s.interpreter = some av' →
      av'.knowledge p = av.knowledge p := by
    intro av av' hb
    rw [Availability.beginProbe?] at hb
    split at hb
    · cases hb
    · cases hb
      exact hset _ _
  have hinstall : ∀ {av av' : Availability}, av.beginInstall? s.interpreter = some av' →
      av'.knowledge p = av.knowledge p := by
    intro av av' hb
    rw [Availability.beginInstall?] at hb
    split at hb
    · cases hb
    · cases hb
      exact hset _ _
  cases h with
  | probe hu hb => exact hbegin hb
  | probeRefused hu hb => exact (hset _ _).trans (hbegin hb)
  | install hb => exact hinstall hb
  | installRefused hb => exact (hset _ _).trans (hinstall hb)
  | refuse => exact hset _ _
  | @miscopy env p' id slot snapshot fault => cases fault <;> first | exact hset _ _ | rfl
  | @accept id token slot run outcome delivery es hs hl ha =>
    obtain ⟨-, hi, -⟩ := (hf.sound hs).manned run ha
    change (if _ then _ else _ : Availability).knowledge p = _
    rw [hi]
    split
    · exact hset _ _
    · rfl
  | judge | installed => simp [isAttempting, Act.subject] at h0
  | _ => rfl

section Confinement

variable {b : DocumentId} {p : Path}

/-- Beside the document that a turn concerns a slot changes only by a prompt. -/
theorem slot?_confined (h : Acts s l s') (hb : ∀ a ∈ l, a.subject ≠ some b)
    (h0 : ∀ a ∈ l, a.subject = none → isAttempting s.interpreter a = true ∨ a = .idle) :
    s'.slot? b = s.slot? b ∨ ∃ p message, .prompt b p message ∈ l := by
  induction h with
  | nil => exact .inl rfl
  | @cons s mid s' a l first rest ih =>
    rw [interpreter_does first] at ih
    rcases ih (fun a ha => hb a (List.mem_cons_of_mem _ ha))
      (fun a ha => h0 a (List.mem_cons_of_mem _ ha)) with hrest | ⟨p, message, hp⟩
    · by_cases hp : ∃ p message, a = .prompt b p message
      · obtain ⟨p, message, rfl⟩ := hp
        exact .inr ⟨p, message, List.mem_cons_self⟩
      · left
        rw [hrest]
        exact slot?_beside first (hb a List.mem_cons_self) (h0 a List.mem_cons_self)
          fun p message he => hp ⟨p, message, he⟩
    · exact .inr ⟨p, message, List.mem_cons_of_mem _ hp⟩

theorem knowledge_confined (hf : Formed s) (h : Acts s l s')
    (h0 : ∀ a ∈ l, a.subject = none → isAttempting s.interpreter a = true ∨ a = .idle)
    (hp : ¬ s.interpreter.same p = true) :
    s'.availability.knowledge p = s.availability.knowledge p := by
  induction h with
  | nil => rfl
  | @cons s mid s' a l first rest ih =>
    have hi := interpreter_does first
    have hfirst := knowledge_beside hf first (h0 a List.mem_cons_self) hp
    rw [hi] at ih
    rw [ih (hf.does first) (fun a ha => h0 a (List.mem_cons_of_mem _ ha)) hp, hfirst]

/-- Who is prompted beside the document that a turn concerns waits for the interpreter. -/
theorem Confined.gate (hf : Formed s) (h : Confined s d l) (hl : Acts s l s') (hb : b ≠ d)
    {message : String} (hp : .prompt b p message ∈ l) :
    p = s.interpreter ∧ gateOf s b = some s.interpreter := by
  have hpath : p = s.interpreter := by
    rcases h.beside _ hp rfl with ha | ha
    · exact of_decide_eq_true ha
    · cases ha
  refine ⟨hpath, ?_⟩
  obtain ⟨u, u', pre, post, rfl, hpre, hdoes, -⟩ := hl.split hp
  have hbare := bare_acts hpre fun a ha => h.elsewhere hb a (List.mem_append_left _ ha)
  have hi : u.interpreter = s.interpreter := congrArg Options.interpreter (options_acts hpre)
  rw [gateOf_bare, ← hbare, ← gateOf_bare]
  cases hdoes with
  | @prompt _ slot _ hs _ hg =>
    obtain ⟨q, hq, -⟩ : ∃ q, slot.gatedOn = some q ∧ q.same p = true := by
      rw [Slot.isGatedOn] at hg
      split at hg
      · next q hq => exact ⟨q, hq, hg⟩
      · cases hg
    have hsound := ((hf.acts hpre).sound hs).gated q hq
    rw [gateOf, hs, Option.bind_some, hq, hsound, hi]

end Confinement

variable {b : DocumentId}

theorem Attempt.files {decision : Decision} (h : Attempt s d l decision s') {e : Event}
    {dir : Path} (he : e ∈ l.flatMap Act.effects) (hdir : changed? e = some dir) :
    scratchOf s' d = some dir := by
  have hquiet : ∀ {mid p ids l} {s' : Scheduler}, Prompting mid p ids l s' →
      e ∉ l.flatMap Act.effects := by
    intro mid p ids l s' hl hm
    obtain ⟨a, ha, hea⟩ := List.mem_flatMap.mp hm
    obtain ⟨id, message, rfl⟩ := hl.only a ha
    cases hea
  have hlast : ∀ {mid a} {s' : Scheduler}, Does mid a s' → a.subject = some d →
      (∀ process scratch, a ≠ .close d process scratch) → e ∈ [a].flatMap Act.effects →
      scratchOf s' d = some dir := by
    intro mid a s' h hsub hclose hm
    cases h.concerns (by simpa using hm) with
    | asked hask => cases e <;> cases hdir <;> cases hask
    | killed => cases hdir
    | copied hd hch hs =>
      cases hsub.symm.trans hd
      cases hdir.symm.trans hch
      exact hs
    | removed ha =>
      subst ha
      cases hsub
      exact absurd rfl (hclose _ _)
  cases h with
  | started h | failed h => exact hlast h rfl (by simp) he
  | unavailable hu hp hl => exact (hquiet hl he).elim
  | probing => cases he
  | probed hp h =>
    rcases List.mem_singleton.mp he with rfl
    cases hdir
  | unprobed hp h hl =>
    rcases List.mem_cons.mp he with rfl | he
    · cases hdir
    · exact (hquiet hl he).elim

/-- Only the scratch directory of the document that a turn concerns is touched. -/
theorem Own.files (h : Own s d l s') {e : Event} {dir : Path} (he : e ∈ l.flatMap Act.effects)
    (hdir : changed? e = some dir) : scratchOf s d = some dir ∨ scratchOf s' d = some dir := by
  cases h with
  | idle => cases he
  | @single b _ hb h =>
    cases h.concerns (by simpa using he) with
    | asked hask => cases e <;> cases hdir <;> cases hask
    | killed => cases hdir
    | copied hd hch hs =>
      cases hb.symm.trans hd
      cases hdir.symm.trans hch
      exact .inr hs
    | removed ha hs =>
      subst ha
      cases hb
      cases hdir
      exact .inl hs
  | attempt hb hquiet h hl =>
    rw [List.flatMap_cons, hquiet, List.nil_append] at he
    cases hl with
    | @mk b mid l decision s' begins first rest =>
      rw [List.flatMap_cons] at he
      rcases List.mem_append.mp he with he | he
      · cases begins with
        | release => cases he
        | kill =>
          cases List.mem_singleton.mp he
          cases hdir
      · exact .inr (rest.files he hdir)

theorem addressee_cases {notice : Notice} (h : notice ∈ a.notices) :
    a.subject = some (addressee notice) ∨
      (∃ b p message, a = .prompt b p message ∧ notice = .installPrompt b p message) ∨
      ∃ p id success output, a = .installed p id success output := by
  cases a with
  | start | fail | accept =>
    cases List.mem_singleton.mp h
    exact .inl rfl
  | prompt =>
    cases List.mem_singleton.mp h
    exact .inr (.inl ⟨_, _, _, rfl, rfl⟩)
  | installed => exact .inr (.inr ⟨_, _, _, _, rfl⟩)
  | _ => cases h

/-- A turn that names a document concerns no other. -/
theorem Plays.isolated (hf : Formed s) (hacc : Accounted s) (h : Plays s t l (t.apply s))
    (hn : Names d t.move) : Isolated s t d := by
  have hown := h.own hn
  have hconf := hown.confined
  have hacts := h.acts
  have hdid : ∀ e ∈ t.did s, isLogged e = false → ∃ a ∈ l, e ∈ a.effects := by
    intro e he hlog
    exact List.mem_flatMap.mp (h.did ▸ mem_effects.mpr ⟨he, hlog⟩)
  constructor
  · exact fun b hb => bare_acts hacts (hconf.elsewhere hb)
  · intro b hb
    rcases slot?_confined hacts (hconf.elsewhere hb) hconf.beside with hs | ⟨p, message, hp⟩
    · exact .inl hs
    · obtain ⟨rfl, -⟩ := hconf.gate hf hacts hb hp
      exact .inr ⟨message, h.mem_told hp (by simp [Act.notices])⟩
  · intro process he
    obtain ⟨a, ha, hea⟩ := hdid _ he rfl
    obtain ⟨u, u', pre, post, rfl, hpre, hdoes, hpost⟩ := hacts.split ha
    cases hdoes.concerns hea with
    | asked hask => cases hask
    | copied hd hch => cases hch
    | @killed d' process token hsub hfly =>
      have hd := hconf.own a ha d' hsub
      subst hd
      have hstarted := ((hacc.acts hpre).owned d' process token hfly).acts (.cons hdoes hpost)
      refine ⟨token, fun tag => ⟨fun htag => ?_, fun htag => htag ▸ hstarted⟩⟩
      exact (hacc.acts hacts).unique htag hstarted
  · intro e tag he hask
    obtain ⟨a, ha, hea⟩ := hdid e he (by cases e <;> first | rfl | cases hask)
    obtain ⟨u, u', pre, post, rfl, hpre, hdoes, hpost⟩ := hacts.split ha
    have hi : u.interpreter = s.interpreter := congrArg Options.interpreter (options_acts hpre)
    cases hdoes.concerns hea with
    | killed => cases hask
    | removed => cases hask
    | copied hd hch => cases e <;> cases hask <;> cases hch
    | @asked _ tag' hask' hserved hprobe =>
      cases hask.symm.trans hask'
      cases hsub : a.subject with
      | none => exact .inr (hi ▸ hprobe hsub)
      | some d' =>
        left
        rw [hserved, hsub, hconf.own a ha d' hsub]
  · intro e dir he hch
    obtain ⟨a, ha, hea⟩ := hdid e he (by cases e <;> first | rfl | cases hch)
    exact hown.files (List.mem_flatMap.mpr ⟨a, ha, hea⟩) hch
  · intro notice hnotice
    rw [h.told] at hnotice
    obtain ⟨a, ha, hna⟩ := List.mem_flatMap.mp hnotice
    rcases addressee_cases hna with hsub | ⟨b, p, message, rfl, rfl⟩ | ⟨p, id, success, output, rfl⟩
    · exact .inl (hconf.own a ha _ hsub)
    · by_cases hb : b = d
      · exact .inl hb
      · obtain ⟨rfl, hgate⟩ := hconf.gate hf hacts hb ha
        obtain ⟨spec, hspec⟩ := (hconf.prompts b _ message ha).resolve_left hb
        have hrefused : .refused spec (.probe s.interpreter) ∈ effects (t.did s) := by
          rw [h.did]
          exact List.mem_flatMap.mpr ⟨_, hspec, List.mem_singleton_self _⟩
        exact .inr ⟨b, message, rfl, hgate, spec, (mem_effects.mp hrefused).1⟩
    · simpa [isAttempting] using hconf.beside _ ha rfl
  · exact fun p hp => knowledge_confined hf hacts hconf.beside hp

/-- Whatever happened before and whatever is refused, a move that names a document leaves all
others alone. -/
theorem isolated_of_names (availability : Availability) (options : Options) (past : List Turn)
    (t : Turn) (d : DocumentId) (hn : Names d t.move) :
    Isolated (play (.new availability options) past) t d := by
  have hf := formed_new availability options
  have hacc := accounted_play hf (accounted_new availability options) past
  obtain ⟨l, hl⟩ := turn_unfolds (formed_play hf past) t
  exact hl.isolated (formed_play hf past) hacc hn

/-- Surroundings that start nothing. -/
def refusing : Surroundings :=
  { obliging with spawn := fun _ _ _ => some ⟨.notFound, "gone"⟩ }

/-- Two documents run, one of them waits for an install too, and a refused launch of a third makes
the verdict doubtful. -/
def doubtful : List Turn :=
  [ ⟨obliging, 0, .request ⟨"d", "one", none⟩ .save⟩,
    ⟨obliging, 1, .request ⟨"e", "two", none⟩ .save⟩, ⟨obliging, 2, .install "e"⟩,
    ⟨refusing, 3, .request ⟨"f", "three", none⟩ .save⟩ ]

/-- The first document is saved again, and no probe can be started. -/
def unprobed : Turn := ⟨refusing, 4, .request ⟨"d", "four", none⟩ .save⟩

/-- Its run is killed and both are prompted; the other goes on running. -/
theorem isolated_of_names_unprobed :
    Names "d" unprobed.move ∧
      Isolated (play (.new (.withVerdict "python" true) plainOptions) doubtful) unprobed "d" ∧
      (unprobed.told (play (.new (.withVerdict "python" true) plainOptions) doubtful)).map
        addressee = ["d", "e"] ∧
      .killed 0 ∈ unprobed.did (play (.new (.withVerdict "python" true) plainOptions) doubtful) :=
  have hn : Names "d" unprobed.move := .request rfl
  ⟨hn, isolated_of_names _ plainOptions doubtful unprobed "d" hn, by decide +kernel,
    by decide +kernel⟩

end TraceView.Proofs.Run
