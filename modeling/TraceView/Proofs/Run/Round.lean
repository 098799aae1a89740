import TraceView.Proofs.Run.Attempt
import TraceView.Proofs.Run.Turn

/-!
# Turns as acts

Each turn, taken apart into the acts it is made of. Attempts that are made one after the other are a
round; the documents of a round are fixed when it begins, and each is still open when its attempt
comes.
-/
namespace TraceView.Proofs.Run

open TraceView.Run
open TraceView.Proofs.KeyOrder

variable {s s' : Scheduler} {id : DocumentId} {slot : Slot}

/-- The acts of a list that are about a document. -/
def about (d : DocumentId) (l : List Act) : List Act :=
  l.filter (·.subject = some d)

@[simp] theorem about_nil (d : DocumentId) : about d [] = [] := rfl

@[simp] theorem about_append (d : DocumentId) (l l' : List Act) :
    about d (l ++ l') = about d l ++ about d l' :=
  List.filter_append ..

theorem about_cons (d : DocumentId) (a : Act) (l : List Act) :
    about d (a :: l) = if a.subject = some d then a :: about d l else about d l := by
  simp only [about, List.filter_cons, decide_eq_true_eq]

theorem about_own {d : DocumentId} {a : Act} (h : a.subject = some d) (l : List Act) :
    about d (a :: l) = a :: about d l := by
  rw [about_cons, if_pos h]

theorem about_other {d : DocumentId} {a : Act} (h : a.subject ≠ some d) (l : List Act) :
    about d (a :: l) = about d l := by
  rw [about_cons, if_neg h]

/-- What each act leaves that is about a document, all acts leave. -/
theorem filterMap_about {α β : Type} {d : DocumentId} {parts : Act → List α} {f : α → Option β}
    {g : Act → Option β} {l : List Act}
    (h : ∀ a ∈ l, (parts a).filterMap f = (about d [a]).filterMap g) :
    (l.flatMap parts).filterMap f = (about d l).filterMap g := by
  induction l with
  | nil => rfl
  | cons a l ih =>
    have happ : about d (a :: l) = about d [a] ++ about d l := about_append d [a] l
    rw [List.flatMap_cons, List.filterMap_append, h a List.mem_cons_self, happ,
      List.filterMap_append, ih fun b hb => h b (List.mem_cons_of_mem _ hb)]

theorem bare_about {l : List Act} (h : Acts s l s') {d : DocumentId} (hd : about d l = []) :
    bare s' d = bare s d := by
  refine bare_acts h fun a ha hs => ?_
  exact of_decide_eq_false (by simpa using List.filter_eq_nil_iff.mp hd a ha) hs

theorem isSome_bare (h : bare s' id = bare s id) : (s'.slot? id).isSome = (s.slot? id).isSome := by
  have hi := congrArg Option.isSome h
  rwa [bare, bare, Option.isSome_map, Option.isSome_map] at hi

theorem Prompting.about {interpreter : Path} {ids : List DocumentId} {l : List Act}
    (h : Prompting s interpreter ids l s') (d : DocumentId) : about d l = [] := by
  refine List.filter_eq_nil_iff.mpr fun a ha => ?_
  obtain ⟨id, message, rfl⟩ := h.only a ha
  simp [Act.subject]

/-- The acts by which an attempt for a document ends. -/
inductive Ends (id : DocumentId) : Act → Prop where
  | start {token process spec copies} : Ends id (.start id token process spec copies)
  | fail {token delivery tried} : Ends id (.fail id token delivery tried)
  | park : Ends id (.park id)

theorem Begins.subject {a : Act} (h : Begins id a) : a.subject = some id := by
  cases h <;> rfl

theorem Ends.subject {a : Act} (h : Ends id a) : a.subject = some id := by
  cases h <;> rfl

theorem Attempt.about {l : List Act} {decision : Decision} (h : Attempt s id l decision s') :
    ∃ e, Ends id e ∧ ∀ d, about d l = if id = d then [e] else [] := by
  cases h with
  | @started token process spec copies =>
    refine ⟨.start id token process spec copies, .start, fun d => ?_⟩
    simp [about_cons, Act.subject]
  | @failed token delivery tried =>
    refine ⟨.fail id token delivery tried, .fail, fun d => ?_⟩
    simp [about_cons, Act.subject]
  | unavailable hu hp hl =>
    refine ⟨.park id, .park, fun d => ?_⟩
    simp [about_cons, Act.subject, hl.about]
  | probing | probed =>
    refine ⟨.park id, .park, fun d => ?_⟩
    simp [about_cons, Act.subject]
  | unprobed hp h hl =>
    refine ⟨.park id, .park, fun d => ?_⟩
    simp [about_cons, Act.subject, hl.about]

theorem Attempt.acts {l : List Act} {decision : Decision} (h : Attempt s id l decision s') :
    Acts s l s' := by
  cases h with
  | started h | failed h => exact .single h
  | unavailable hu hp hl => exact .cons hp hl.acts
  | probing hu hp => exact .single hp
  | probed hp h => exact .cons hp (.single h)
  | unprobed hp h hl => exact .cons hp (.cons h hl.acts)

/-- What an attempt does about a document: two acts if it is its own, none otherwise. -/
theorem Launch.about {l : List Act} {decision : Decision} (h : Launch s id l decision s') :
    ∃ b e, Begins id b ∧ Ends id e ∧ ∀ d, about d l = if id = d then [b, e] else [] := by
  cases h with
  | mk begins first rest =>
    obtain ⟨e, he, habout⟩ := rest.about
    refine ⟨_, e, begins, he, fun d => ?_⟩
    rw [about_cons, begins.subject, habout]
    by_cases hd : id = d <;> simp [hd]

theorem Launch.acts {l : List Act} {decision : Decision} (h : Launch s id l decision s') :
    Acts s l s' := by
  cases h with
  | mk begins first rest => exact .cons first rest.acts

/-- Attempts for documents in turn, after the timer of each is stopped if `calm` is set. -/
inductive Round (calm : Bool) : Scheduler → List DocumentId → List Act →
    List (DocumentId × Decision) → Scheduler → Prop where
  | nil (s : Scheduler) : Round calm s [] [] [] s
  | cons {s mid mid' s' : Scheduler} {id : DocumentId} {pre l l' decision ids ds}
      (hpre : pre = if calm then [Act.calm id] else []) (first : Acts s pre mid)
      (launch : Launch mid id l decision mid') (rest : Round calm mid' ids l' ds s') :
      Round calm s (id :: ids) (pre ++ l ++ l') ((id, decision) :: ds) s'

section Rounds

variable {calm : Bool} {ids : List DocumentId} {l : List Act} {ds : List (DocumentId × Decision)}

theorem Round.acts (h : Round calm s ids l ds s') : Acts s l s' := by
  induction h with
  | nil => exact .nil _
  | cons hpre first launch _ ih => exact (first.append launch.acts).append ih

theorem Round.documents (h : Round calm s ids l ds s') : ds.map (·.1) = ids := by
  induction h with
  | nil => rfl
  | cons hpre first launch _ ih => rw [List.map_cons, ih]

theorem about_calm (calm : Bool) (id d : DocumentId) :
    about d (if calm then [Act.calm id] else []) =
      if id = d then (if calm then [Act.calm id] else []) else [] := by
  cases calm <;> by_cases hd : id = d <;> simp [about_cons, Act.subject, hd]

theorem Round.about_not_mem (h : Round calm s ids l ds s') {d : DocumentId} (hd : d ∉ ids) :
    about d l = [] := by
  induction h with
  | nil => rfl
  | @cons _ _ _ _ id _ _ _ _ _ _ hpre first launch _ ih =>
    obtain ⟨b, e, -, -, habout⟩ := launch.about
    have hne : id ≠ d := fun he => hd (he ▸ List.mem_cons_self)
    rw [about_append, about_append, hpre, about_calm, habout, if_neg hne, if_neg hne,
      ih fun hm => hd (List.mem_cons_of_mem _ hm)]
    rfl

theorem Round.about_mem (h : Round calm s ids l ds s') (hn : ids.Nodup) {d : DocumentId}
    (hd : d ∈ ids) :
    ∃ b e, Begins d b ∧ Ends d e ∧
      about d l = (if calm then [Act.calm d] else []) ++ [b, e] := by
  induction h with
  | nil => cases hd
  | @cons _ _ _ _ id _ _ _ _ _ _ hpre first launch rest ih =>
    obtain ⟨b, e, hb, he, habout⟩ := launch.about
    obtain ⟨hnot, hn'⟩ := List.nodup_cons.mp hn
    by_cases hid : id = d
    · subst hid
      refine ⟨b, e, hb, he, ?_⟩
      rw [about_append, about_append, hpre, about_calm, habout, if_pos rfl, if_pos rfl,
        rest.about_not_mem hnot, List.append_nil]
    · obtain ⟨b', e', hb', he', hrest⟩ :=
        ih hn' ((List.mem_cons.mp hd).resolve_left (Ne.symm hid))
      refine ⟨b', e', hb', he', ?_⟩
      rw [about_append, about_append, hpre, about_calm, habout, if_neg hid, if_neg hid, hrest]
      rfl

end Rounds

/-- The scheduler as an attempt finds it. -/
def readyFor (calm : Bool) (s : Scheduler) (id : DocumentId) : Scheduler :=
  if calm then s.update id fun slot => { slot with due := none } else s

/-- Attempts one after the other, with what comes of each. -/
def attemptEach (calm : Bool) (env : Surroundings) (s : Scheduler) :
    List DocumentId → Scheduler × List (DocumentId × Decision)
  | [] => (s, [])
  | id :: rest =>
    let (s, decision) := (readyFor calm s id).launchLatest env id
    let (s, decisions) := attemptEach calm env s rest
    (s, (id, decision) :: decisions)

theorem launchEach_eq (env : Surroundings) (ids : List DocumentId) :
    ∀ s : Scheduler, s.launchEach env ids = attemptEach true env s ids := by
  induction ids with
  | nil => exact fun _ => rfl
  | cons id rest ih =>
    intro s
    simp only [Scheduler.launchEach, attemptEach, ih]
    rfl

theorem launches_eq (env : Surroundings) (ids : List DocumentId) :
    ∀ s : Scheduler, attemptEach false env s ids =
      (ids.foldl (fun s id => (s.launchLatest env id).1) s, launches env s ids) := by
  induction ids with
  | nil => exact fun _ => rfl
  | cons id rest ih =>
    intro s
    simp only [attemptEach, launches, List.foldl_cons, ih]
    rfl

theorem calm_does (hs : s.slot? id = some slot) :
    Does s (.calm id) (s.update id fun slot => { slot with due := none }) ∧
      (s.update id fun slot => { slot with due := none }).slot? id =
        some { slot with due := none } := by
  constructor
  · rw [update_eq_put hs]
    exact .calm hs
  · rw [slot?_update, if_pos rfl, hs]
    rfl

theorem readyFor_acts (calm : Bool) (hs : s.slot? id = some slot) :
    Acts s (if calm then [Act.calm id] else []) (readyFor calm s id) ∧
      ∃ slot', (readyFor calm s id).slot? id = some slot' := by
  cases calm with
  | false => exact ⟨.nil s, slot, hs⟩
  | true =>
    obtain ⟨hcalm, hs'⟩ := calm_does hs
    exact ⟨.single hcalm, _, hs'⟩

/-- Attempts for documents that are open are a round. -/
theorem attemptEach_round (calm : Bool) (env : Surroundings) (ids : List DocumentId) :
    ∀ s : Scheduler, Formed s → (∀ id ∈ ids, (s.slot? id).isSome) → ids.Nodup →
      ∃ l, Round calm s ids l (attemptEach calm env s ids).2 (attemptEach calm env s ids).1 := by
  induction ids with
  | nil => exact fun s _ _ _ => ⟨[], .nil s⟩
  | cons id rest ih =>
    intro s hf hopen hn
    obtain ⟨hnot, hn'⟩ := List.nodup_cons.mp hn
    obtain ⟨slot, hs⟩ := Option.isSome_iff_exists.mp (hopen id List.mem_cons_self)
    obtain ⟨hready, slot', hs'⟩ := readyFor_acts calm hs
    obtain ⟨l, hl⟩ := launch_unfolds env (hf.acts hready) hs'
    have hacts := hready.append hl.acts
    have hopen' : ∀ k ∈ rest,
        (((readyFor calm s id).launchLatest env id).1.slot? k).isSome := by
      intro k hk
      have hne : id ≠ k := fun he => hnot (he ▸ hk)
      obtain ⟨b, e, -, -, habout⟩ := hl.about
      rw [isSome_bare (bare_about hacts _)]
      · exact hopen k (List.mem_cons_of_mem _ hk)
      · rw [about_append, about_calm, habout, if_neg hne, if_neg hne]
        rfl
    obtain ⟨l', hl'⟩ := ih _ (hf.acts hacts) hopen' hn'
    exact ⟨_, .cons rfl hready hl hl'⟩

/-- Turns that change nothing but the log. -/
inductive Still (s : Scheduler) (t : Turn) : Prop where
  | reissue {id : DocumentId} (hm : t.move = .reissue id) (hs : s.slot? id = none)
  | trace {id : DocumentId} {token : Token} {outcome : Outcome}
      (hm : t.move = .complete ⟨.trace id token, outcome⟩)
      (hs : ∀ slot, s.slot? id = some slot → slot.latest ≠ some token)
  | install {id : DocumentId} (hm : t.move = .install id)
      (hb : s.availability.beginInstall? s.interpreter = none)
  | close {id : DocumentId} (hm : t.move = .close id) (hs : s.slot? id = none)

/-- The act by which a completion is taken that reports an interpreter to have the tracer. -/
inductive Vouches : Completion → Path → Act → Prop where
  | judge {interpreter outcome} :
      Vouches ⟨.probe interpreter, outcome⟩ interpreter (.judge interpreter true)
  | installed {interpreter id outcome} :
      Vouches ⟨.install interpreter id, outcome⟩ interpreter
        (.installed interpreter id true outcome.combined)

inductive Installs (id : DocumentId) : Act → Prop where
  | install {process spec interpreter} : Installs id (.install id process spec interpreter)
  | installRefused {spec interpreter} : Installs id (.installRefused id spec interpreter)

/-- The acts of a turn. -/
inductive Plays (s : Scheduler) (t : Turn) : List Act → Scheduler → Prop where
  | edited {snapshot} {s' : Scheduler} (hm : t.move = .request snapshot .change)
      (h : Does s (.ask snapshot (some (t.now + s.options.debounce))) s') :
      Plays s t [.ask snapshot (some (t.now + s.options.debounce))] s'
  | requested {snapshot trigger mid l decision} {s' : Scheduler}
      (hm : t.move = .request snapshot trigger) (ht : trigger ≠ .change)
      (ha : t.attempts s = [(snapshot.document, decision)])
      (h : Does s (.ask snapshot none) mid)
      (hl : Launch mid snapshot.document l decision s') :
      Plays s t (.ask snapshot none :: l) s'
  | reissued {id : DocumentId} {mid l decision} {s' : Scheduler} (hm : t.move = .reissue id)
      (ha : t.attempts s = [(id, decision)]) (h : Does s (.calm id) mid)
      (hl : Launch mid id l decision s') :
      Plays s t (.calm id :: l) s'
  | fired {l} {s' : Scheduler} (hm : t.move = .tick)
      (hr : Round true s (s.expired t.now) l (t.attempts s) s') : Plays s t l s'
  | accepted {id : DocumentId} {token outcome delivery} {s' : Scheduler}
      (hm : t.move = .complete ⟨.trace id token, outcome⟩)
      (hd : (delivery.kind, delivery.text) = classify outcome)
      (h : Does s (.accept id token delivery) s') : Plays s t [.accept id token delivery] s'
  | judged {interpreter outcome mid l} {s' : Scheduler}
      (hm : t.move = .complete ⟨.probe interpreter, outcome⟩) (ho : outcome.success = false)
      (h : Does s (.judge interpreter false) mid)
      (hl : Prompting mid interpreter (mid.waiting interpreter) l s') :
      Plays s t (.judge interpreter false :: l) s'
  | woken {completion interpreter a l} {s' : Scheduler} (hm : t.move = .complete completion)
      (hv : vouched? completion = some interpreter) (ha : Vouches completion interpreter a)
      (h : Does s a (heard s completion))
      (hr : Round false (heard s completion) ((heard s completion).waiting interpreter) l
        (t.attempts s) s') : Plays s t (a :: l) s'
  | uninstalled {interpreter outcome} {id : DocumentId} {s' : Scheduler}
      (hm : t.move = .complete ⟨.install interpreter id, outcome⟩)
      (ho : outcome.success = false)
      (h : Does s (.installed interpreter id false outcome.combined) s') :
      Plays s t [.installed interpreter id false outcome.combined] s'
  | installing {id : DocumentId} {a} {s' : Scheduler} (hm : t.move = .install id)
      (ha : Installs id a) (h : Does s a s') : Plays s t [a] s'
  | closed {id : DocumentId} {process scratch} {s' : Scheduler} (hm : t.move = .close id)
      (h : Does s (.close id process scratch) s') : Plays s t [.close id process scratch] s'
  | still {es} (hq : Still s t) (hes : effects es = []) : Plays s t [.idle] (extend s es)

theorem Plays.acts {t : Turn} {l : List Act} (h : Plays s t l s') : Acts s l s' := by
  cases h with
  | edited hm h => exact .single h
  | requested hm ht ha h hl => exact .cons h hl.acts
  | reissued hm ha h hl => exact .cons h hl.acts
  | fired hm hr => exact hr.acts
  | accepted hm hd h => exact .single h
  | judged hm ho h hl => exact .cons h hl.acts
  | woken hm hv ha h hr => exact .cons h hr.acts
  | uninstalled hm ho h => exact .single h
  | installing hm ha h => exact .single h
  | closed hm h => exact .single h
  | still hq hes => exact .single (.idle hes)

theorem Acts.did {t : Turn} {l : List Act} (h : Acts s l (t.apply s)) :
    effects (t.did s) = l.flatMap Act.effects := by
  obtain ⟨es, he, hes⟩ := events_acts h
  rw [Turn.did, he, List.drop_left, hes]

theorem Acts.told {t : Turn} {l : List Act} (h : Acts s l (t.apply s)) :
    t.told s = l.flatMap Act.notices := by
  rw [Turn.told, notices_acts h, List.drop_left]

theorem Plays.did {t : Turn} {l : List Act} (h : Plays s t l (t.apply s)) :
    effects (t.did s) = l.flatMap Act.effects :=
  h.acts.did

theorem Plays.told {t : Turn} {l : List Act} (h : Plays s t l (t.apply s)) :
    t.told s = l.flatMap Act.notices :=
  h.acts.told

theorem Plays.mem_told {t : Turn} {l : List Act} (h : Plays s t l (t.apply s)) {a : Act}
    (ha : a ∈ l) {notice : Notice} (hn : notice ∈ a.notices) : notice ∈ t.told s := by
  rw [h.told]
  exact List.mem_flatMap.mpr ⟨a, ha, hn⟩

/-- A trace completion is accepted or it changes nothing but the log. -/
theorem Plays.trace_cases {t : Turn} {l : List Act} (h : Plays s t l s') {token : Token}
    {outcome : Outcome} (hm : t.move = .complete ⟨.trace id token, outcome⟩) :
    (∃ delivery, (delivery.kind, delivery.text) = classify outcome ∧
      l = [.accept id token delivery] ∧ Does s (.accept id token delivery) s') ∨
    (l = [.idle] ∧ (∀ slot, s.slot? id = some slot → slot.latest ≠ some token) ∧
      ∃ es, effects es = [] ∧ s' = extend s es) := by
  cases h with
  | accepted hm' hd h =>
    rw [hm] at hm'
    cases hm'
    exact .inl ⟨_, hd, rfl, h⟩
  | still hq hes =>
    cases hq with
    | trace hm' hs =>
      rw [hm] at hm'
      cases hm'
      exact .inr ⟨rfl, hs, _, hes, rfl⟩
    | reissue hm' | install hm' | close hm' =>
      rw [hm] at hm'
      cases hm'
  | woken hm' hv =>
    rw [hm] at hm'
    cases hm'
    cases hv
  | edited hm' | requested hm' | reissued hm' | fired hm' | judged hm' | uninstalled hm'
  | installing hm' | closed hm' =>
    rw [hm] at hm'
    cases hm'

theorem finishTrace_unfolds (hf : Formed s) {t : Turn} {token : Token} {outcome : Outcome}
    (hm : t.move = .complete ⟨.trace id token, outcome⟩) :
    ∃ l, Plays s t l (s.finishTrace id token outcome) := by
  cases hs : s.slot? id with
  | none =>
    have he : ∃ line, s.finishTrace id token outcome = extend s [.logged line] := by
      simp only [Scheduler.finishTrace, hs]
      exact ⟨_, rfl⟩
    obtain ⟨line, he⟩ := he
    rw [he]
    exact ⟨_, .still (.trace hm (by simp [hs])) rfl⟩
  | some slot =>
    by_cases hl : slot.latest = some token
    · have hsound := hf.sound hs
      obtain ⟨run, ha, -⟩ := Option.map_eq_some_iff.mp (hsound.latest.symm.trans hl)
      have he : ∃ es, effects es = [] ∧ s.finishTrace id token outcome =
          { put s id { slot with
              latest := none
              active := none
              ended := some (run.token, (run.finish outcome.success).state) } with
            availability :=
              if (classify outcome).1 = .userError ∧
                indicatesMissing (classify outcome).2 s.options.tracerModule
              then s.availability.invalidate run.interpreter else s.availability
            events := s.events ++ es
            notices := s.notices ++ [.delivered id token ⟨(classify outcome).1,
              (classify outcome).2, run.source, run.interpreter⟩] } := by
        simp only [Scheduler.finishTrace, hs, hl, ha, ne_eq, not_true_eq_false, if_false,
          update_eq_put hs, put]
        by_cases hu : (classify outcome).1 = .userError ∧
            indicatesMissing (classify outcome).2 s.options.tracerModule = true
        · have hi : (classify outcome).1 ≠ .infrastructure := by simp [hu.1]
          simp only [if_pos hu, if_neg hi]
          exact ⟨[.logged _], rfl, rfl⟩
        · simp only [if_neg hu]
          by_cases hi : (classify outcome).1 = .infrastructure
          · simp only [if_pos hi]
            exact ⟨[.logged _], rfl, rfl⟩
          · simp only [if_neg hi]
            exact ⟨[.logged _], rfl, rfl⟩
      obtain ⟨es, hes, he⟩ := he
      rw [he]
      exact ⟨_, .accepted hm rfl (.accept hs hl ha rfl hes)⟩
    · have he : ∃ line, s.finishTrace id token outcome = extend s [.logged line] := by
        simp only [Scheduler.finishTrace, hs, hl, ne_eq, not_false_eq_true, if_true]
        exact ⟨_, rfl⟩
      obtain ⟨line, he⟩ := he
      rw [he]
      refine ⟨_, .still (.trace hm ?_) rfl⟩
      intro slot' hs'
      rw [hs] at hs'
      cases hs'
      exact hl

theorem open_of_waiting (hf : Formed s) (interpreter : Path) :
    ∀ id ∈ s.waiting interpreter, (s.slot? id).isSome := by
  intro id hid
  obtain ⟨slot, hs, -⟩ := (mem_waiting hf interpreter id).mp hid
  simp [hs]

/-- A report that the tracer is there wakes the documents that wait for it. -/
theorem wake_unfolds (hf : Formed s) {t : Turn} {completion : Completion} {interpreter : Path}
    {a : Act} (hm : t.move = .complete completion) (hv : vouched? completion = some interpreter)
    (ha : Vouches completion interpreter a) (h : Does s a (heard s completion))
    (hst : (heard s completion).availability.status interpreter = .available) :
    ∃ l, Plays s t l ((heard s completion).resolveGated t.env interpreter) := by
  have hf' := hf.does h
  obtain ⟨l, hl⟩ := attemptEach_round false t.env _ _ hf' (open_of_waiting hf' interpreter)
    (nodup_waiting hf' interpreter)
  rw [launches_eq] at hl
  have hattempts : t.attempts s = launches t.env (heard s completion)
      ((heard s completion).waiting interpreter) := by
    simp only [Turn.attempts, hm, hv]
  have he : (heard s completion).resolveGated t.env interpreter =
      ((heard s completion).waiting interpreter).foldl
        (fun s id => (s.launchLatest t.env id).1) (heard s completion) := by
    simp only [Scheduler.resolveGated, hst]
  rw [← hattempts, ← he] at hl
  exact ⟨_, .woken hm hv ha h hl⟩

theorem finishProbe_unfolds (hf : Formed s) {t : Turn} {interpreter : Path} {outcome : Outcome}
    (hm : t.move = .complete ⟨.probe interpreter, outcome⟩) :
    ∃ l, Plays s t l (s.finishProbe t.env interpreter outcome) := by
  have hj : Does s (.judge interpreter outcome.success) (heard s ⟨.probe interpreter, outcome⟩) :=
    @Does.judge s _ _ [.logged _] rfl
  have hst : (heard s ⟨.probe interpreter, outcome⟩).availability.status interpreter =
      if outcome.success then .available else .unavailable := status_finishProbe ..
  change ∃ l, Plays s t l
    ((heard s ⟨.probe interpreter, outcome⟩).resolveGated t.env interpreter)
  cases ho : outcome.success with
  | true =>
    rw [ho] at hj hst
    exact wake_unfolds hf hm (by simp [vouched?, ho]) .judge hj hst
  | false =>
    rw [ho] at hj hst
    have hf' := hf.does hj
    obtain ⟨l, hl⟩ := prompts_unfold interpreter _ _
      (fun id hid => (mem_waiting hf' interpreter id).mp hid) hst
    have he : (heard s ⟨.probe interpreter, outcome⟩).resolveGated t.env interpreter =
        (heard s ⟨.probe interpreter, outcome⟩).promptWaiting interpreter := by
      simp only [Scheduler.resolveGated, hst, Bool.false_eq_true, if_false]
    rw [he]
    exact ⟨_, .judged hm ho hj hl⟩

theorem status_finishInstall (a : Availability) (p : Path) :
    (a.finishInstall p true).status p = .available := by
  simp only [Availability.finishInstall, status_set, if_true, Knowledge.status]

theorem finishInstall_unfolds (hf : Formed s) {t : Turn} {interpreter : Path} {outcome : Outcome}
    (hm : t.move = .complete ⟨.install interpreter id, outcome⟩) :
    ∃ l, Plays s t l (s.finishInstall t.env interpreter id outcome) := by
  cases ho : outcome.success with
  | true =>
    have hi : Does s (.installed interpreter id true outcome.combined)
        (heard s ⟨.install interpreter id, outcome⟩) := by
      simp only [heard, ho, if_true]
      exact @Does.installed s _ _ _ _ [.logged _] rfl
    have he : s.finishInstall t.env interpreter id outcome =
        (heard s ⟨.install interpreter id, outcome⟩).resolveGated t.env interpreter := by
      simp only [Scheduler.finishInstall, heard, ho, if_true]
    have hst : (heard s ⟨.install interpreter id, outcome⟩).availability.status interpreter =
        .available := by
      simp only [heard, ho, if_true]
      exact status_finishInstall ..
    rw [he]
    exact wake_unfolds hf hm (by simp [vouched?, ho]) .installed hi hst
  | false =>
    have he : ∃ line, s.finishInstall t.env interpreter id outcome =
        extend (renewed false interpreter ({ s with
          availability := s.availability.finishInstall interpreter false }.notify
            (.installFinished id interpreter false outcome.combined))) [.logged line] := by
      simp only [Scheduler.finishInstall, ho, Bool.false_eq_true, if_false]
      exact ⟨_, rfl⟩
    obtain ⟨line, he⟩ := he
    rw [he]
    exact ⟨_, .uninstalled hm ho (.installed rfl)⟩

theorem requestInstall_unfolds {t : Turn} (hm : t.move = .install id) :
    ∃ l, Plays s t l (s.requestInstall t.env id).1 := by
  cases hb : s.availability.beginInstall? s.interpreter with
  | none =>
    have he : (s.requestInstall t.env id).1 = extend s [] := by
      simp only [Scheduler.requestInstall, hb, extend_nil]
    rw [he]
    exact ⟨_, .still (.install hm hb) rfl⟩
  | some a =>
    obtain ⟨line, hline⟩ : ∃ line, ({ s with availability := a : Scheduler }.update id
        (gated s.interpreter)).log .info "installing tracer" [("interpreter", s.interpreter)] =
          extend ({ s with availability := a : Scheduler }.update id (gated s.interpreter))
            [.logged line] := ⟨_, rfl⟩
    have hg : (fun slot : Slot => if slot.request.isSome then
        { slot with gatedOn := some s.interpreter } else slot) = gated s.interpreter := rfl
    have ho : (extend ({ s with availability := a : Scheduler }.update id (gated s.interpreter))
      [.logged line]).options = s.options := rfl
    cases hspawn : t.env.spawn s.attempts s.options.installSpec (.install s.interpreter id) with
    | none =>
      have h := @Does.install s id a [.logged line, .launched s.processes
        s.options.installSpec (.install s.interpreter id)] hb (by simp [isLogged])
      have hl := launch_ok (s := extend ({ s with availability := a : Scheduler }.update id
        (gated s.interpreter)) [.logged line]) hspawn
      simp only [Scheduler.requestInstall, hb, hg, hline, ho, hl]
      simp only [spawned, extend, List.append_assoc]
      exact ⟨_, .installing hm .install h⟩
    | some cause =>
      have h := @Does.installRefused s id a [.logged line, .refused
        s.options.installSpec (.install s.interpreter id)] hb (by simp [isLogged])
      have hl := launch_refused (s := extend ({ s with availability := a : Scheduler }.update id
        (gated s.interpreter)) [.logged line]) hspawn
      simp only [Scheduler.requestInstall, hb, hg, hline, ho, hl]
      simp only [turnedDown, extend, List.append_assoc]
      exact ⟨_, .installing hm .installRefused h⟩

theorem close_unfolds (hf : Formed s) {t : Turn} (hm : t.move = .close id) :
    ∃ l, Plays s t l (s.close t.env id) := by
  cases hs : s.slot? id with
  | none =>
    have he : s.close t.env id = extend s [] := by
      simp only [Scheduler.close, hs, extend_nil]
    rw [he]
    exact ⟨_, .still (.close hm hs) rfl⟩
  | some slot =>
    have hsup : ∃ es, effects es = (slot.active.bind (·.process)).toList.map Event.killed ∧
        (s.supersede t.env id slot).1 = extend s es ∧
        (s.supersede t.env id slot).2.scratch = slot.scratch := by
      rcases supersede_cases t.env hf hs with ⟨ha, he⟩ | ⟨run, process, es, ha, hp, hes, he⟩
      · rw [ha, he]
        exact ⟨[], rfl, (extend_nil s).symm, rfl⟩
      · rw [ha, he]
        refine ⟨es, ?_, rfl, rfl⟩
        rw [hes, Option.bind_some, hp]
        rfl
    obtain ⟨es, hes, he, hscratch⟩ := hsup
    have hc : ∃ es', effects es' = slot.scratch.toList.map Event.scratchRemoved ∧
        s.close t.env id = { s with
          documents := Keyed.erase s.documents id
          events := s.events ++ (es ++ es') } := by
      simp only [Scheduler.close, hs, he, hscratch, ← List.append_assoc]
      cases slot.scratch with
      | none => exact ⟨[.logged _], rfl, rfl⟩
      | some dir =>
        simp only [Scheduler.log, Scheduler.emit, extend, List.append_assoc]
        exact ⟨[.logged _, .scratchRemoved dir], rfl, rfl⟩
    obtain ⟨es', hes', hc⟩ := hc
    rw [hc]
    exact ⟨_, .closed hm (.close hs (by rw [effects_append, hes, hes']))⟩

theorem reissue_unfolds (hf : Formed s) {t : Turn} (hm : t.move = .reissue id) :
    ∃ l, Plays s t l (s.reissue t.env id).1 := by
  cases hs : s.slot? id with
  | none =>
    have he : (s.reissue t.env id).1 = extend s [] := by
      rw [Scheduler.reissue, update_none hs, launchLatest_none _ hs, extend_nil]
    rw [he]
    exact ⟨_, .still (.reissue hm hs) rfl⟩
  | some slot =>
    obtain ⟨hcalm, hs'⟩ := calm_does hs
    obtain ⟨l, hl⟩ := launch_unfolds t.env (hf.does hcalm) hs'
    have hattempts : t.attempts s = [(id, (s.reissue t.env id).2)] := by
      simp only [Turn.attempts, hm]
    exact ⟨_, .reissued hm hattempts hcalm hl⟩

/-- What is not an edit is a launch attempt at once. -/
theorem requestRun_launches (env : Surroundings) (hf : Formed s) (snapshot : Snapshot)
    {trigger : Trigger} (ht : trigger ≠ .change) (now : Nat) :
    ∃ mid l, Does s (.ask snapshot none) mid ∧
      Launch mid snapshot.document l (s.requestRun env snapshot trigger now).2
        (s.requestRun env snapshot trigger now).1 := by
  have hask := @Does.ask s snapshot none [] rfl
  rw [extend_nil] at hask
  have hs := slot?_put s snapshot.document { (s.slot? snapshot.document).getD .empty with
    request := some snapshot, due := none } snapshot.document
  rw [if_pos rfl] at hs
  obtain ⟨l, hl⟩ := launch_unfolds env (hf.does hask) hs
  cases trigger with
  | change => exact absurd rfl ht
  | save | explicit => exact ⟨_, l, hask, hl⟩

theorem requestRun_unfolds (hf : Formed s) {t : Turn} {snapshot : Snapshot} {trigger : Trigger}
    (hm : t.move = .request snapshot trigger) :
    ∃ l, Plays s t l (s.requestRun t.env snapshot trigger t.now).1 := by
  by_cases ht : trigger = .change
  · subst ht
    exact ⟨_, .edited hm (@Does.ask s _ _ [.logged _] rfl)⟩
  · obtain ⟨mid, l, hask, hl⟩ := requestRun_launches t.env hf snapshot ht t.now
    refine ⟨_, .requested hm ht ?_ hask hl⟩
    cases trigger with
    | change => exact absurd rfl ht
    | save | explicit => simp only [Turn.attempts, hm]

theorem mem_expired (hf : Formed s) (now : Nat) (id : DocumentId) :
    id ∈ s.expired now ↔ ∃ slot, s.slot? id = some slot ∧ slot.due.any (· ≤ now) = true :=
  mem_keys_filter hf.ordered _ id

theorem fireDue_unfolds (hf : Formed s) {t : Turn} (hm : t.move = .tick) :
    ∃ l, Plays s t l (s.fireDue t.env t.now).1 := by
  have hopen : ∀ id ∈ s.expired t.now, (s.slot? id).isSome := by
    intro id hid
    obtain ⟨slot, hs, -⟩ := (mem_expired hf t.now id).mp hid
    simp [hs]
  obtain ⟨l, hl⟩ := attemptEach_round true t.env _ _ hf hopen (nodup_keys_filter hf.ordered _)
  rw [← launchEach_eq] at hl
  have hattempts : t.attempts s = (s.launchEach t.env (s.expired t.now)).2 := by
    simp only [Turn.attempts, hm]
    rfl
  rw [← hattempts] at hl
  exact ⟨_, .fired hm hl⟩

/-- Every turn is made of acts. -/
theorem turn_unfolds (hf : Formed s) (t : Turn) : ∃ l, Plays s t l (t.apply s) := by
  cases hm : t.move with
  | request snapshot trigger =>
    simp only [Turn.apply, hm]
    exact requestRun_unfolds hf hm
  | reissue id =>
    simp only [Turn.apply, hm]
    exact reissue_unfolds hf hm
  | tick =>
    simp only [Turn.apply, hm]
    exact fireDue_unfolds hf hm
  | complete completion =>
    simp only [Turn.apply, hm]
    obtain ⟨tag, outcome⟩ := completion
    cases tag with
    | trace id token => exact finishTrace_unfolds hf hm
    | probe interpreter => exact finishProbe_unfolds hf hm
    | install interpreter id => exact finishInstall_unfolds hf hm
  | install id =>
    simp only [Turn.apply, hm]
    exact requestInstall_unfolds hm
  | close id =>
    simp only [Turn.apply, hm]
    exact close_unfolds hf hm

theorem formed_play (hf : Formed s) (turns : List Turn) : Formed (play s turns) := by
  induction turns generalizing s with
  | nil => exact hf
  | cons t turns ih =>
    obtain ⟨l, hl⟩ := turn_unfolds hf t
    exact ih (hf.acts hl.acts)

/-- A run is made of acts. -/
theorem acts_play (hf : Formed s) (turns : List Turn) : ∃ l, Acts s l (play s turns) := by
  induction turns generalizing s with
  | nil => exact ⟨[], .nil s⟩
  | cons t turns ih =>
    obtain ⟨l, hl⟩ := turn_unfolds hf t
    obtain ⟨l', hl'⟩ := ih (hf.acts hl.acts)
    exact ⟨l ++ l', hl.acts.append hl'⟩

theorem options_play (hf : Formed s) (turns : List Turn) :
    (play s turns).options = s.options := by
  induction turns generalizing s with
  | nil => rfl
  | cons t turns ih =>
    obtain ⟨l, hl⟩ := turn_unfolds hf t
    exact (ih (hf.acts hl.acts)).trans (options_acts hl.acts)

end TraceView.Proofs.Run
