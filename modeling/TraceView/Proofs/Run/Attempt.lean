import TraceView.Proofs.Run.Form

/-!
# Launch attempts as acts

A launch attempt gives up the run there is and then comes to one of six ends. Nothing else can
happen in it: what it does to documents other than its own is to prompt them.
-/
namespace TraceView.Proofs.Run

open TraceView.Run
open TraceView.Proofs.KeyOrder

variable {s s' : Scheduler} {id : DocumentId} {slot : Slot}

theorem mem_waiting (hf : Formed s) (interpreter : Path) (id : DocumentId) :
    id ∈ s.waiting interpreter ↔
      ∃ slot, s.slot? id = some slot ∧ slot.isGatedOn interpreter = true :=
  mem_keys_filter hf.ordered _ id

theorem nodup_waiting (hf : Formed s) (interpreter : Path) : (s.waiting interpreter).Nodup :=
  nodup_keys_filter hf.ordered _

theorem same_self (p : Path) : p.same p = true := by
  simp only [Path.same, beq_self_eq_true]

theorem same_comm {p q : Path} (h : p.same q = true) : q.same p = true := by
  rw [Path.same, eq_of_beq h]
  exact beq_self_eq_true _

theorem same_trans {p q r : Path} (h : p.same q = true) (h' : q.same r = true) :
    p.same r = true := by
  rw [Path.same, eq_of_beq h]
  exact h'

theorem knowledge_same {a : Availability} {p q : Path} (h : p.same q = true) :
    a.knowledge p = a.knowledge q := by
  rw [Availability.knowledge, Availability.knowledge, eq_of_beq h]

theorem status_same {a : Availability} {p q : Path} (h : p.same q = true) :
    a.status p = a.status q := by
  rw [Availability.status, Availability.status, knowledge_same h]

theorem knowledge_set (a : Availability) (p : Path) (k : Knowledge) (q : Path) :
    (a.set p k).knowledge q = if p.same q then k else a.knowledge q := by
  simp only [Availability.set, Availability.knowledge, Keyed.get?_insert, Path.same, beq_iff_eq]
  split <;> rfl

theorem status_set (a : Availability) (p : Path) (k : Knowledge) :
    (a.set p k).status p = k.status := by
  simp only [Availability.status, knowledge_set, same_self, if_true]

def isPrompted (s : Scheduler) (id : DocumentId) : Bool := (s.slot? id).any (·.prompted)

/-- Acts that prompt some of the documents, and that leave none of them unprompted. -/
structure Prompting (s : Scheduler) (interpreter : Path) (ids : List DocumentId) (l : List Act)
    (s' : Scheduler) : Prop where
  acts : Acts s l s'
  only : ∀ a ∈ l, ∃ id message, a = .prompt id interpreter message
  done : ∀ id ∈ ids, isPrompted s' id = true
  among : ∀ id p message, .prompt id p message ∈ l → id ∈ ids

theorem isPrompted_prompt {interpreter : Path} {message : String}
    (h : Does s (.prompt id interpreter message) s') (k : DocumentId) :
    isPrompted s' k = (isPrompted s k || id = k) := by
  cases h with
  | @prompt id slot interpreter hs =>
    change ((put s id { slot with prompted := true }).slot? k).any _ = _
    rw [slot?_put]
    split
    · next he => simp [he]
    · next he => simp [he, isPrompted]

theorem availability_prompt {interpreter : Path} {message : String}
    (h : Does s (.prompt id interpreter message) s') : s'.availability = s.availability := by
  cases h
  rfl

theorem Prompting.kept {interpreter : Path} {ids : List DocumentId} {l : List Act}
    (h : Prompting s interpreter ids l s') {k : DocumentId} (hk : isPrompted s k = true) :
    isPrompted s' k = true := by
  obtain ⟨acts, only, -, -⟩ := h
  induction acts with
  | nil => exact hk
  | cons first _ ih =>
    obtain ⟨id, message, rfl⟩ := only _ List.mem_cons_self
    refine ih ?_ fun a ha => only a (List.mem_cons_of_mem _ ha)
    rw [isPrompted_prompt first, hk, Bool.true_or]

theorem Prompting.frame {interpreter : Path} {ids : List DocumentId} {l : List Act}
    (h : Prompting s interpreter ids l s') :
    s'.availability = s.availability ∧ ∀ k, bare s' k = bare s k := by
  obtain ⟨acts, only, -, -⟩ := h
  constructor
  · induction acts with
    | nil => rfl
    | cons first _ ih =>
      obtain ⟨id, message, rfl⟩ := only _ List.mem_cons_self
      rw [ih fun a ha => only a (List.mem_cons_of_mem _ ha), availability_prompt first]
  · refine fun k => bare_acts acts fun a ha => ?_
    obtain ⟨id, message, rfl⟩ := only a ha
    simp [Act.subject]

theorem prompt_unfolds (interpreter : Path) (hs : s.slot? id = some slot)
    (hg : slot.isGatedOn interpreter = true)
    (hu : s.availability.status interpreter = .unavailable) :
    ∃ l, Prompting s interpreter [id] l (s.prompt interpreter id) := by
  cases hp : slot.prompted with
  | true =>
    have he : s.prompt interpreter id = s := by
      rw [Scheduler.prompt, hs]
      simp only [hp, if_true]
    rw [he]
    refine ⟨[], .nil s, by simp, ?_, by simp⟩
    simp [isPrompted, hs, hp]
  | false =>
    have he : s.prompt interpreter id = (put s id { slot with prompted := true }).notify
        (.installPrompt id interpreter
          (installPromptMessage s.options.tracerModule interpreter)) := by
      rw [Scheduler.prompt, hs]
      simp only [hp, Bool.false_eq_true, if_false, update_eq_put hs]
    rw [he]
    have h := Does.prompt hs hp hg hu
    refine ⟨_, .single h, by simp, ?_, ?_⟩
    · simp [isPrompted_prompt h]
    · intro k p message hk
      cases List.mem_singleton.mp hk
      exact List.mem_singleton_self _

theorem prompts_unfold (interpreter : Path) (ids : List DocumentId) :
    ∀ s : Scheduler,
      (∀ id ∈ ids, ∃ slot, s.slot? id = some slot ∧ slot.isGatedOn interpreter = true) →
      s.availability.status interpreter = .unavailable →
      ∃ l, Prompting s interpreter ids l
        (ids.foldl (fun s id => s.prompt interpreter id) s) := by
  induction ids with
  | nil => exact fun s _ _ => ⟨[], .nil s, by simp, by simp, by simp⟩
  | cons id rest ih =>
    intro s hg hu
    obtain ⟨slot, hs, hgs⟩ := hg id List.mem_cons_self
    obtain ⟨l, hl⟩ := prompt_unfolds interpreter hs hgs hu
    obtain ⟨hav, hbare⟩ := hl.frame
    have hg' : ∀ k ∈ rest, ∃ slot, (s.prompt interpreter id).slot? k = some slot ∧
        slot.isGatedOn interpreter = true := by
      intro k hk
      obtain ⟨slot, hks, hkg⟩ := hg k (List.mem_cons_of_mem _ hk)
      exact gated_of_bare (hbare k) hks hkg
    obtain ⟨l', hl'⟩ := ih _ hg' (by rwa [hav])
    refine ⟨l ++ l', hl.acts.append hl'.acts, ?_, ?_, ?_⟩
    · intro a ha
      rcases List.mem_append.mp ha with ha | ha
      · exact hl.only a ha
      · exact hl'.only a ha
    · intro k hk
      rcases List.mem_cons.mp hk with rfl | hk
      · exact hl'.kept (hl.done _ List.mem_cons_self)
      · exact hl'.done k hk
    · intro k p message hk
      rcases List.mem_append.mp hk with hk | hk
      · cases List.mem_singleton.mp (hl.among k p message hk)
        exact List.mem_cons_self
      · exact List.mem_cons_of_mem _ (hl'.among k p message hk)

/-- What a launch attempt comes to once the earlier run is given up. -/
inductive Attempt (s : Scheduler) (id : DocumentId) :
    List Act → Decision → Scheduler → Prop where
  | started {token process spec copies} {s' : Scheduler}
      (h : Does s (.start id token process spec copies) s') :
      Attempt s id [.start id token process spec copies] (.launched token) s'
  | failed {token delivery tried} {s' : Scheduler} (h : Does s (.fail id token delivery tried) s') :
      Attempt s id [.fail id token delivery tried] (.notRun .launchFailed) s'
  | unavailable {mid l} {s' : Scheduler} (hu : s.availability.status s.interpreter = .unavailable)
      (hp : Does s (.park id) mid) (hl : Prompting mid s.interpreter [id] l s') :
      Attempt s id (.park id :: l) (.notRun .unavailable) s'
  | probing {s' : Scheduler} (hu : s.availability.status s.interpreter = .probing)
      (hp : Does s (.park id) s') : Attempt s id [.park id] .awaitingAvailability s'
  | probed {mid process spec interpreter} {s' : Scheduler} (hp : Does s (.park id) mid)
      (h : Does mid (.probe process spec interpreter) s') :
      Attempt s id [.park id, .probe process spec interpreter] .awaitingAvailability s'
  | unprobed {mid spec interpreter mid' l} {s' : Scheduler} (hp : Does s (.park id) mid)
      (h : Does mid (.probeRefused spec interpreter) mid')
      (hl : Prompting mid' s.interpreter (mid'.waiting s.interpreter) l s') :
      Attempt s id (.park id :: .probeRefused spec interpreter :: l) (.notRun .unavailable) s'

/-- The acts by which an attempt for a document begins. -/
inductive Begins (id : DocumentId) : Act → Prop where
  | release : Begins id (.release id)
  | kill (token : Token) (process : Nat) : Begins id (.kill id token process)

/-- A whole launch attempt. -/
inductive Launch (s : Scheduler) (id : DocumentId) :
    List Act → Decision → Scheduler → Prop where
  | mk {a mid l decision} {s' : Scheduler} (begins : Begins id a) (first : Does s a mid)
      (rest : Attempt mid id l decision s') : Launch s id (a :: l) decision s'

/-- The scheduler after the run of a document has been given up. -/
def givenUp (env : Surroundings) (s : Scheduler) (id : DocumentId) (slot : Slot) : Scheduler :=
  let (s, slot) := s.supersede env id slot
  s.update id fun _ => slot

/-- Giving up a run leaves the slot without one, and kills the process of that run. -/
theorem supersede_cases (env : Surroundings) (hf : Formed s) (hs : s.slot? id = some slot) :
    (slot.active = none ∧ s.supersede env id slot = (s, { slot with latest := none })) ∨
      ∃ run process es, slot.active = some run ∧ run.process = some process ∧
        effects es = [.killed process] ∧
        s.supersede env id slot = (extend s es, { slot with
          active := none, ended := some (run.token, .superseded), latest := none }) := by
  cases ha : slot.active with
  | none =>
    left
    refine ⟨rfl, ?_⟩
    simp only [Scheduler.supersede, ha]
  | some run =>
    right
    obtain ⟨-, -, process, hp⟩ := (hf.sound hs).manned run ha
    have heq : ∃ es, effects es = [.killed process] ∧
        (s.supersede env id slot).1 = extend s es := by
      simp only [Scheduler.supersede, ha, TraceRun.supersede, hp, Scheduler.log, emit_eq_extend,
        extend_extend]
      cases env.kill process with
      | none => exact ⟨_, rfl, rfl⟩
      | some cause => exact ⟨_, rfl, rfl⟩
    obtain ⟨es, hes, he⟩ := heq
    refine ⟨run, process, es, rfl, hp, hes, ?_⟩
    rw [← he]
    simp only [Scheduler.supersede, ha, TraceRun.supersede]

theorem givenUp_does (env : Surroundings) (hf : Formed s) (hs : s.slot? id = some slot) :
    (∃ a, Begins id a ∧ Does s a (givenUp env s id slot)) ∧
      ∃ slot', (givenUp env s id slot).slot? id = some slot' ∧ slot'.active = none ∧
        (s.supersede env id slot).2 = slot' ∧ slot'.request = slot.request := by
  rcases supersede_cases env hf hs with ⟨ha, he⟩ | ⟨run, process, es, ha, hp, hes, he⟩
  · have hput : givenUp env s id slot = put s id { slot with latest := none } := by
      simp only [givenUp, he, update_eq_put hs]
    rw [hput, he]
    exact ⟨⟨_, .release, .release hs ha⟩, { slot with latest := none }, by simp, ha, rfl, rfl⟩
  · have hput : givenUp env s id slot = extend (put s id { slot with
        active := none, ended := some (run.token, .superseded), latest := none }) es := by
      simp only [givenUp, he]
      exact update_eq_put (s := extend s es) hs _
    rw [hput, he]
    exact ⟨⟨_, .kill run.token process, .kill hs ha hp hes⟩,
      { slot with active := none, ended := some (run.token, .superseded), latest := none },
      by simp, rfl, rfl, rfl⟩

/-- What is done to make a copy of the source. -/
inductive Copying : Event → Prop where
  | scratchMade (dir : Path) : Copying (.scratchMade dir)
  | copyWritten (dir : Path) (name text : String) : Copying (.copyWritten dir name text)

theorem copying_writeCopy (env : Surroundings) (options : Options) (snapshot : Snapshot)
    (dir : Path) (asked : Nat) {es : List Event} (h : ∀ e ∈ es, Copying e) :
    ∀ e ∈ (writeCopy env options snapshot dir asked es).events, Copying e := by
  rw [writeCopy]
  cases env.write (snapshot.copyPath dir) with
  | some fault => exact h
  | none =>
    intro e he
    rcases List.mem_append.mp he with he | he
    · exact h e he
    · cases List.mem_singleton.mp he
      exact .copyWritten ..

theorem copying_prepare (env : Surroundings) (options : Options) (snapshot : Snapshot)
    (scratch : Option Path) (asked : Nat) :
    ∀ e ∈ (prepare env options snapshot scratch asked).events, Copying e := by
  unfold prepare
  split
  · split
    · exact copying_writeCopy _ _ _ _ _ (by simp)
    · split
      · simp
      · refine copying_writeCopy _ _ _ _ _ fun e he => ?_
        cases List.mem_singleton.mp he
        exact .scratchMade _
  · simp

theorem effects_prepare (env : Surroundings) (options : Options) (snapshot : Snapshot)
    (scratch : Option Path) (asked : Nat) :
    effects (prepare env options snapshot scratch asked).events =
      (prepare env options snapshot scratch asked).events := by
  refine List.filter_eq_self.mpr fun e he => ?_
  cases copying_prepare env options snapshot scratch asked e he <;> rfl

theorem filterMap_prepare {β : Type} {f : Event → Option β} (hf : ∀ e, Copying e → f e = none)
    (env : Surroundings) (options : Options) (snapshot : Snapshot) (scratch : Option Path)
    (asked : Nat) : (prepare env options snapshot scratch asked).events.filterMap f = [] :=
  List.filterMap_eq_nil_iff.mpr fun e he =>
    hf e (copying_prepare env options snapshot scratch asked e he)

section Launches

variable {env : Surroundings} {spec : LaunchSpec} {tag : LaunchTag}

def spawned (s : Scheduler) (spec : LaunchSpec) (tag : LaunchTag) : Scheduler :=
  { s with
    attempts := s.attempts + 1
    processes := s.processes + 1
    events := s.events ++ [.launched s.processes spec tag] }

def turnedDown (s : Scheduler) (spec : LaunchSpec) (tag : LaunchTag) : Scheduler :=
  { s with
    attempts := s.attempts + 1
    events := s.events ++ [.refused spec tag] }

theorem launch_ok (h : env.spawn s.attempts spec tag = none) :
    s.launch env spec tag = (spawned s spec tag, .ok s.processes) := by
  unfold Scheduler.launch
  rw [h]
  rfl

theorem launch_refused {cause : Fault} (h : env.spawn s.attempts spec tag = some cause) :
    s.launch env spec tag = (turnedDown s spec tag, .error (.spawn spec.program cause)) := by
  unfold Scheduler.launch
  rw [h]
  rfl

end Launches

theorem modify_documents (h : s.slot? id = some slot) (f : Slot → Slot) :
    Keyed.modify s.documents id f = Keyed.insert s.documents id (f slot) := by
  have hg : Keyed.get? s.documents id = some slot := h
  simp only [Keyed.modify, hg]

theorem failLaunch_eq {snapshot : Snapshot} (token : Token) (fault : LaunchFault)
    (hs : s.slot? snapshot.document = some slot) :
    ∃ es, effects es = [] ∧ s.failLaunch snapshot token fault =
      { put s snapshot.document { slot with gatedOn := none } with
        availability := doubt s fault
        events := s.events ++ es
        notices := s.notices ++ [.delivered snapshot.document token
          ⟨.infrastructure, launchFailureMessage fault, snapshot.text, s.interpreter⟩] } := by
  refine ⟨[.logged ⟨.warn, .scheduler, "tracer could not be started",
    [("document", snapshot.document), ("error", fault.message)]⟩], rfl, ?_⟩
  have hm := modify_documents hs
  cases fault with
  | spawn program cause =>
    simp only [Scheduler.failLaunch, Scheduler.log, Scheduler.emit, Scheduler.notify,
      Scheduler.update, hm]
    rfl
  | sourceCopy path cause =>
    simp only [Scheduler.failLaunch, Scheduler.log, Scheduler.emit, Scheduler.notify,
      Scheduler.update, hm]
    rfl

/-- The scheduler once a copy of the source has been tried for a run. -/
def readied (s : Scheduler) (id : DocumentId) (slot : Slot) (p : Prepared) : Scheduler :=
  { put s id { slot with scratch := p.scratch } with
    lastToken := s.lastToken + 1
    scratches := p.asked
    events := s.events ++ p.events }

theorem slot?_readied (s : Scheduler) (id : DocumentId) (slot : Slot) (p : Prepared) :
    (readied s id slot p).slot? id = some { slot with scratch := p.scratch } := by
  change (put s id _).slot? id = _
  rw [slot?_put, if_pos rfl]

theorem put_readied (s : Scheduler) (id : DocumentId) (slot slot' : Slot) (p : Prepared) :
    put (readied s id slot p) id slot' =
      { put s id slot' with
        lastToken := s.lastToken + 1
        scratches := p.asked
        events := s.events ++ p.events } := by
  simp only [put, readied, insert_insert]

theorem update_readied (hs : s.slot? id = some slot) (p : Prepared) :
    { s with
      lastToken := s.lastToken + 1
      scratches := p.asked
      events := s.events ++ p.events : Scheduler }.update id
        (fun slot => { slot with scratch := p.scratch }) = readied s id slot p := by
  refine update_eq_put (?_ : _ = some slot) _
  exact hs

section Starting

variable {env : Surroundings} {snapshot : Snapshot} {p : Prepared} {spec : LaunchSpec}

theorem startRun_miscopied {fault : LaunchFault} (hs : s.slot? snapshot.document = some slot)
    (ha : slot.active = none) (hr : slot.request = some snapshot)
    (hv : s.availability.status s.interpreter = .available)
    (hp : prepare env s.options snapshot slot.scratch s.scratches = p)
    (hspec : p.spec = .error fault) :
    ∃ l, Attempt s snapshot.document l (s.startRun env snapshot).2 (s.startRun env snapshot).1 := by
  have hev : effects p.events = p.events := hp ▸ effects_prepare ..
  have hready := slot?_readied s snapshot.document slot p
  obtain ⟨es, hes, hfail⟩ := failLaunch_eq (s.lastToken + 1) fault hready
  have h := @Does.miscopy s env p _ slot snapshot fault _ (p.events ++ es) hs ha hr hv hp hspec
    rfl (by simp [hev, hes])
  have he : s.startRun env snapshot =
      ((readied s snapshot.document slot p).failLaunch snapshot (s.lastToken + 1) fault,
        .notRun .launchFailed) := by
    simp only [Scheduler.startRun, hs, Option.bind_some, hp, hspec, update_readied hs]
  rw [he, hfail, put_readied]
  rw [← List.append_assoc] at h
  exact ⟨_, .failed h⟩

theorem startRun_refused {cause : Fault} (hs : s.slot? snapshot.document = some slot)
    (ha : slot.active = none) (hr : slot.request = some snapshot)
    (hv : s.availability.status s.interpreter = .available)
    (hp : prepare env s.options snapshot slot.scratch s.scratches = p) (hspec : p.spec = .ok spec)
    (hspawn : env.spawn s.attempts spec (.trace snapshot.document (s.lastToken + 1)) =
      some cause) :
    ∃ l, Attempt s snapshot.document l (s.startRun env snapshot).2 (s.startRun env snapshot).1 := by
  have hev : effects p.events = p.events := hp ▸ effects_prepare ..
  have hready := slot?_readied s snapshot.document slot p
  have hl := @launch_refused (readied s snapshot.document slot p) env spec _ _ hspawn
  obtain ⟨es, hes, hfail⟩ := failLaunch_eq (s := turnedDown (readied s snapshot.document slot p)
    spec (.trace snapshot.document (s.lastToken + 1))) (s.lastToken + 1)
    (.spawn spec.program cause) hready
  have h := @Does.refuse s env p _ slot snapshot spec cause _
    (p.events ++ ([.refused spec (.trace snapshot.document (s.lastToken + 1))] ++ es))
    hs ha hr hv hp hspec rfl (by simp [hev, hes, isLogged])
  simp only [Scheduler.startRun, hs, Option.bind_some, hp, hspec, update_readied hs, hl, hfail]
  simp only [turnedDown, readied, put, insert_insert, List.append_assoc]
  exact ⟨_, .failed h⟩

theorem startRun_started (hs : s.slot? snapshot.document = some slot)
    (ha : slot.active = none) (hr : slot.request = some snapshot)
    (hv : s.availability.status s.interpreter = .available)
    (hp : prepare env s.options snapshot slot.scratch s.scratches = p) (hspec : p.spec = .ok spec)
    (hspawn : env.spawn s.attempts spec (.trace snapshot.document (s.lastToken + 1)) = none) :
    ∃ l, Attempt s snapshot.document l (s.startRun env snapshot).2 (s.startRun env snapshot).1 := by
  have hev : effects p.events = p.events := hp ▸ effects_prepare ..
  have hready := slot?_readied s snapshot.document slot p
  have hl := @launch_ok (readied s snapshot.document slot p) env spec _ hspawn
  have hm := modify_documents (s := spawned (readied s snapshot.document slot p) spec
    (.trace snapshot.document (s.lastToken + 1))) hready
  have h := @Does.start s env p _ slot snapshot spec
    (p.events ++ ([.launched s.processes spec (.trace snapshot.document (s.lastToken + 1))] ++
      [.logged ⟨.info, .scheduler, "trace run started",
        [("document", snapshot.document), ("token", toString (s.lastToken + 1))]⟩]))
    hs ha hr hv hp hspec (by simp [hev, isLogged])
  simp only [Scheduler.startRun, hs, Option.bind_some, hp, hspec, update_readied hs, hl]
  simp only [Scheduler.log, Scheduler.emit, Scheduler.notify, Scheduler.update, hm]
  simp only [spawned, readied, put, insert_insert, List.append_assoc]
  exact ⟨_, .started h⟩

/-- Starting a run is one act, whatever is refused on the way. -/
theorem startRun_attempt (env : Surroundings) (hs : s.slot? id = some slot)
    (ha : slot.active = none) (hr : slot.request = some snapshot) (hd : snapshot.document = id)
    (hv : s.availability.status s.interpreter = .available) :
    ∃ l, Attempt s id l (s.startRun env snapshot).2 (s.startRun env snapshot).1 := by
  subst hd
  cases hspec : (prepare env s.options snapshot slot.scratch s.scratches).spec with
  | error fault => exact startRun_miscopied hs ha hr hv rfl hspec
  | ok spec =>
    cases hspawn : env.spawn s.attempts spec (.trace snapshot.document (s.lastToken + 1)) with
    | none => exact startRun_started hs ha hr hv rfl hspec hspawn
    | some cause => exact startRun_refused hs ha hr hv rfl hspec hspawn

end Starting

theorem beginProbe_of_unknown {a : Availability} {p : Path} (h : a.status p = .unknown) :
    ∃ a', a.beginProbe? p = some a' ∧ a'.status p = .probing := by
  have hk : (a.knowledge p).importable = none ∧ (a.knowledge p).probing = false := by
    rw [Availability.status, Knowledge.status] at h
    split at h
    · cases h
    · cases h
    · next hn =>
      refine ⟨hn, ?_⟩
      cases hp : (a.knowledge p).probing with
      | false => rfl
      | true =>
        rw [hp] at h
        cases h
  refine ⟨a.set p { a.knowledge p with probing := true }, ?_, ?_⟩
  · simp only [Availability.beginProbe?, hk.2, Bool.false_eq_true, if_false]
  · simp only [status_set, Knowledge.status, hk.1, if_true]

theorem status_finishProbe (a : Availability) (p : Path) (importable : Bool) :
    (a.finishProbe p importable).status p =
      if importable then .available else .unavailable := by
  cases importable <;> simp [Availability.finishProbe, status_set, Knowledge.status]

/-- A probe that may start leaves the verdict open; one that may not is a verdict. -/
theorem startProbe_cases (env : Surroundings) (hf : Formed s)
    (hu : s.availability.status s.interpreter = .unknown) :
    (∃ process spec interpreter, Does s (.probe process spec interpreter) (s.startProbe env) ∧
      (s.startProbe env).availability.status s.interpreter = .probing) ∨
    ∃ spec interpreter mid l, Does s (.probeRefused spec interpreter) mid ∧
      Prompting mid s.interpreter (mid.waiting s.interpreter) l (s.startProbe env) ∧
      (s.startProbe env).availability.status s.interpreter = .unavailable := by
  obtain ⟨a, ha, hprobing⟩ := beginProbe_of_unknown hu
  obtain ⟨line, hline⟩ : ∃ line, { s with availability := a : Scheduler }.log .info
      "probing tracer availability" [("interpreter", s.interpreter)] =
        extend { s with availability := a } [.logged line] := ⟨_, rfl⟩
  have hoptions : ∀ s' : Scheduler, ∀ es, (extend s' es).options = s'.options := fun _ _ => rfl
  cases hspawn : env.spawn s.attempts s.options.probeSpec (.probe s.interpreter) with
  | none =>
    left
    have hl := launch_ok (s := extend { s with availability := a } [.logged line]) hspawn
    have he : s.startProbe env =
        spawned (extend { s with availability := a } [.logged line]) s.options.probeSpec
          (.probe s.interpreter) := by
      simp only [Scheduler.startProbe, ha, hline, hoptions, hl]
    have h := @Does.probe s a [.logged line, .launched s.processes s.options.probeSpec
      (.probe s.interpreter)] hu ha (by simp [isLogged])
    refine ⟨s.processes, s.options.probeSpec, s.interpreter, ?_, ?_⟩
    · rw [he]
      simp only [spawned, extend, List.append_assoc]
      exact h
    · rw [he]
      exact hprobing
  | some cause =>
    right
    have hl := launch_refused (s := extend { s with availability := a } [.logged line]) hspawn
    obtain ⟨warning, hw⟩ : ∃ warning, ∀ s' : Scheduler, s'.log .warn
        "availability probe could not start" [("interpreter", s.interpreter),
          ("error", (LaunchFault.spawn s.options.probeSpec.program cause).message)] =
            extend s' [.logged warning] := ⟨_, fun _ => rfl⟩
    have h := @Does.probeRefused s a [.logged line, .refused s.options.probeSpec
      (.probe s.interpreter), .logged warning] hu ha (by simp [isLogged])
    obtain ⟨l, hp⟩ := prompts_unfold s.interpreter _ _
      (fun id hid => (mem_waiting (hf.does h) s.interpreter id).mp hid)
      (status_finishProbe a s.interpreter false)
    have he : s.startProbe env = Scheduler.promptWaiting { s with
        availability := a.finishProbe s.interpreter false
        attempts := s.attempts + 1
        events := s.events ++ [.logged line, .refused s.options.probeSpec
          (.probe s.interpreter), .logged warning] } s.interpreter := by
      simp only [Scheduler.startProbe, ha, hline, hoptions, hl, hw]
      simp only [turnedDown, extend, List.append_assoc]
      rfl
    rw [he]
    refine ⟨_, _, _, l, h, hp, ?_⟩
    rw [Scheduler.promptWaiting, hp.frame.1]
    exact status_finishProbe a s.interpreter false

theorem launchLatest_none (env : Surroundings) (h : s.slot? id = none) :
    s.launchLatest env id = (s, .notRun .noRequest) := by
  simp only [Scheduler.launchLatest, h]

/-- What a launch does once the earlier run is given up. -/
def proceed (env : Surroundings) (s : Scheduler) (id : DocumentId) (snapshot : Snapshot) :
    Scheduler × Decision :=
  match s.availability.status s.interpreter with
  | .available => s.startRun env snapshot
  | .unavailable => ((s.gate id).prompt s.interpreter id, .notRun .unavailable)
  | .probing => (s.gate id, .awaitingAvailability)
  | .unknown =>
    let s := (s.gate id).startProbe env
    match s.availability.status s.interpreter with
    | .unavailable => (s, .notRun .unavailable)
    | _ => (s, .awaitingAvailability)

theorem launchLatest_eq (env : Surroundings) (hs : s.slot? id = some slot) {snapshot : Snapshot}
    (hr : (s.supersede env id slot).2.request = some snapshot) :
    s.launchLatest env id = proceed env (givenUp env s id slot) id snapshot := by
  simp only [Scheduler.launchLatest, hs, hr]
  rfl

/-- The launch of an open document is an attempt. -/
theorem launch_unfolds (env : Surroundings) (hf : Formed s) (hs : s.slot? id = some slot) :
    ∃ l, Launch s id l (s.launchLatest env id).2 (s.launchLatest env id).1 := by
  obtain ⟨⟨a, hbegins, hfirst⟩, slot', hs', hactive, hslot, hrequest⟩ := givenUp_does env hf hs
  obtain ⟨snapshot, hr, hd⟩ := (hf.sound hs).asked
  have hr' : slot'.request = some snapshot := hrequest.trans hr
  rw [launchLatest_eq env hs (hslot ▸ hr')]
  have hf' := hf.does hfirst
  generalize givenUp env s id slot = g at *
  have hgate : g.gate id = put g id { slot' with gatedOn := some g.interpreter } :=
    update_eq_put hs' _
  have hpark : Does g (.park id) (g.gate id) := hgate ▸ .park hs'
  unfold proceed
  cases hv : g.availability.status g.interpreter with
  | available =>
    obtain ⟨l, hl⟩ := startRun_attempt env hs' hactive hr' hd hv
    exact ⟨a :: l, .mk hbegins hfirst hl⟩
  | unavailable =>
    have hsg : (g.gate id).slot? id = some { slot' with gatedOn := some g.interpreter } := by
      rw [hgate, slot?_put, if_pos rfl]
    obtain ⟨l, hl⟩ := prompt_unfolds g.interpreter hsg (same_self _) hv
    exact ⟨a :: .park id :: l, .mk hbegins hfirst (.unavailable hv hpark hl)⟩
  | probing => exact ⟨_, .mk hbegins hfirst (.probing hv hpark)⟩
  | unknown =>
    rcases startProbe_cases env (hf'.does hpark) hv with
      ⟨process, spec, interpreter, hprobe, hst⟩ | ⟨spec, interpreter, mid, l, hno, hl, hst⟩
    · have ho := options_does hprobe
      simp only [Scheduler.interpreter, ho] at hst ⊢
      rw [hst]
      exact ⟨_, .mk hbegins hfirst (.probed hpark hprobe)⟩
    · have ho := (options_acts hl.acts).trans (options_does hno)
      simp only [Scheduler.interpreter, ho] at hst ⊢
      rw [hst]
      exact ⟨_, .mk hbegins hfirst (.unprobed hpark hno hl)⟩

end TraceView.Proofs.Run
