import TraceView.Proofs.Run.Isolation
import TraceView.Proofs.Run.Round

/-!
# Calls

Launching a document may start a probe, a probe that is refused settles the documents that wait, and
settling launches documents. Here the three call each other as they do when a verdict is resolved in
one way for all callers, with the depth to which calls may nest and a record of what is done on the
way. A refused probe leaves a verdict with which nothing is launched, so nothing ever nests deeper
than four calls. A probe is begun in the midst of attempts, while nothing is known.
-/
namespace TraceView.Proofs.Run

open TraceView.Run

/-- What is done in the course of a move. -/
inductive Deed where
  | attempt (id : DocumentId) (decision : Decision)
  /-- The store is to begin a probe, after all that was done so far. -/
  | beginProbe (interpreter : Path) (before : List Event)
  /-- A process is asked for, with what is known of the configured interpreter. -/
  | ask (tag : LaunchTag) (verdict : Status)
  deriving DecidableEq

/-- The launches asked for on the way from one state to another. -/
def asksBetween (s s' : Scheduler) : List Deed :=
  ((s'.events.drop s.events.length).filterMap asked?).map (.ask · (verdict s))

/-- Launches documents one after the other. -/
def eachCall (calm : Bool)
    (launch : Scheduler → DocumentId → Option (Scheduler × Decision × List Deed))
    (s : Scheduler) :
    List DocumentId → Option (Scheduler × List (DocumentId × Decision) × List Deed)
  | [] => some (s, [], [])
  | id :: rest => do
    let (s, decision, deeds) ← launch (readyFor calm s id) id
    let (s, decisions, more) ← eachCall calm launch s rest
    some (s, (id, decision) :: decisions, deeds ++ more)

/-- An attempt, once the earlier run is given up. -/
def proceedCall (env : Surroundings) (probe : Scheduler → Path → Option (Scheduler × List Deed))
    (s : Scheduler) (id : DocumentId) (snapshot : Snapshot) :
    Option (Scheduler × Decision × List Deed) :=
  match verdict s with
  | .available =>
    let (s', decision) := s.startRun env snapshot
    some (s', decision, .attempt id decision :: asksBetween s s')
  | .unavailable =>
    some ((s.gate id).prompt s.interpreter id, .notRun .unavailable,
      [.attempt id (.notRun .unavailable)])
  | .probing => some (s.gate id, .awaitingAvailability, [.attempt id .awaitingAvailability])
  | .unknown => do
    let (s, deeds) ← probe (s.gate id) s.interpreter
    match verdict s with
    | .unavailable => some (s, .notRun .unavailable, .attempt id (.notRun .unavailable) :: deeds)
    | _ => some (s, .awaitingAvailability, .attempt id .awaitingAvailability :: deeds)

mutual

/-- None if calls nest deeper than allowed. -/
def launchCall (env : Surroundings) : Nat → Scheduler → DocumentId →
    Option (Scheduler × Decision × List Deed)
  | 0, _, _ => none
  | depth + 1, s, id =>
    match s.slot? id with
    | none => some (s, .notRun .noRequest, [.attempt id (.notRun .noRequest)])
    | some slot =>
      match slot.request with
      | none =>
        some (givenUp env s id slot, .notRun .noRequest, [.attempt id (.notRun .noRequest)])
      | some snapshot => proceedCall env (probeCall env depth) (givenUp env s id slot) id snapshot

def probeCall (env : Surroundings) : Nat → Scheduler → Path → Option (Scheduler × List Deed)
  | 0, _, _ => none
  | depth + 1, s, interpreter =>
    match s.availability.beginProbe? interpreter with
    | none => some (s, [.beginProbe interpreter s.events])
    | some availability =>
      let begun := { s with availability }.log .info "probing tracer availability"
        [("interpreter", interpreter)]
      let (s', launched) := begun.launch env begun.options.probeSpec (.probe interpreter)
      match launched with
      | .ok _ => some (s', .beginProbe interpreter s.events :: asksBetween begun s')
      | .error fault => do
        let s'' := s'.log .warn "availability probe could not start"
          [("interpreter", interpreter), ("error", fault.message)]
        let (settled, deeds) ← resolveCall env depth
          { s'' with availability := s''.availability.finishProbe interpreter false } interpreter
        some (settled, .beginProbe interpreter s.events :: asksBetween begun s' ++ deeds)

def resolveCall (env : Surroundings) : Nat → Scheduler → Path → Option (Scheduler × List Deed)
  | 0, _, _ => none
  | depth + 1, s, interpreter =>
    match s.availability.status interpreter with
    | .available => do
      let (s, _, deeds) ← eachCall false (launchCall env depth) s (s.waiting interpreter)
      some (s, deeds)
    | .unavailable => some (s.promptWaiting interpreter, [])
    | .unknown | .probing => some (s, [])

end

/-- A move, with its calls nested as deep as allowed, and what is done in it. -/
def Turn.calls (t : Turn) (depth : Nat) (s : Scheduler) : Option (Scheduler × List Deed) :=
  match t.move with
  | .request _ .change => some (t.apply s, [])
  | .request snapshot _ => do
    let slot := { (s.slot? snapshot.document).getD .empty with
      request := some snapshot, due := none }
    let (s, _, deeds) ← launchCall t.env depth (put s snapshot.document slot) snapshot.document
    some (s, deeds)
  | .reissue id => do
    let (s, _, deeds) ← launchCall t.env depth (readyFor true s id) id
    some (s, deeds)
  | .tick => do
    let (s, _, deeds) ← eachCall true (launchCall t.env depth) s (s.expired t.now)
    some (s, deeds)
  | .complete completion =>
    match completion.tag with
    | .trace .. => some (t.apply s, [])
    | .probe interpreter => resolveCall t.env depth (heard s completion) interpreter
    | .install interpreter _ =>
      if completion.outcome.success then
        resolveCall t.env depth (heard s completion) interpreter
      else some (heard s completion, [])
  | .install _ => some (t.apply s, asksBetween s (t.apply s))
  | .close _ => some (t.apply s, [])

variable {s s' : Scheduler} {id : DocumentId} {slot : Slot}

namespace Deed

def tag? : Deed → Option LaunchTag
  | .ask tag _ => some tag
  | .attempt .. | .beginProbe .. => none

def attempted? : Deed → Option (DocumentId × Decision)
  | .attempt id decision => some (id, decision)
  | .ask .. | .beginProbe .. => none

def isProbe : Deed → Bool
  | .ask (.probe _) _ => true
  | _ => false

end Deed

/-- Just those launches are asked for on the way. -/
structure Asks (s : Scheduler) (tags : List LaunchTag) (s' : Scheduler) : Prop where
  options : s'.options = s.options
  asked : ∃ es, s'.events = s.events ++ es ∧ es.filterMap asked? = tags

theorem Asks.of_eq (ho : s'.options = s.options) (he : s'.events = s.events) : Asks s [] s' :=
  ⟨ho, [], by rw [he, List.append_nil], rfl⟩

theorem Asks.trans {s'' : Scheduler} {tags tags' : List LaunchTag} (h : Asks s tags s')
    (h' : Asks s' tags' s'') : Asks s (tags ++ tags') s'' := by
  obtain ⟨ho, es, he, hes⟩ := h
  obtain ⟨ho', es', he', hes'⟩ := h'
  refine ⟨ho'.trans ho, es ++ es', ?_, ?_⟩
  · rw [he', he, List.append_assoc]
  · rw [List.filterMap_append, hes, hes']

theorem Asks.between {tags : List LaunchTag} (h : Asks s tags s') :
    asksBetween s s' = tags.map (.ask · (verdict s)) := by
  obtain ⟨es, he, hes⟩ := h.asked
  rw [asksBetween, he, List.drop_left, hes]

theorem tags_asks (tags : List LaunchTag) (k : Status) :
    (tags.map (Deed.ask · k)).filterMap Deed.tag? = tags := by
  induction tags with
  | nil => rfl
  | cons tag tags ih => rw [List.map_cons, List.filterMap_cons, Deed.tag?, ih]

/-- Nothing more is learnt of the interpreter by launching. -/
def Barred (s : Scheduler) : Prop := verdict s = .probing ∨ verdict s = .unavailable

/-- The attempts made on the way from one state to another, with what is asked for in them. -/
structure Bounded (s : Scheduler) (attempts : List (DocumentId × Decision)) (deeds : List Deed)
    (s' : Scheduler) : Prop where
  attempted : deeds.filterMap Deed.attempted? = attempts
  asks : Asks s (deeds.filterMap Deed.tag?) s'
  /-- A run is asked for only where the tracer is known to be there. -/
  available : ∀ id token k, .ask (.trace id token) k ∈ deeds → k = .available
  once : deeds.countP Deed.isProbe ≤ 1

/-- Attempts can only wait once a probe has been asked for, so there is never a second one. -/
structure Spends (s : Scheduler) (attempts : List (DocumentId × Decision)) (deeds : List Deed)
    (s' : Scheduler) : Prop extends Bounded s attempts deeds s' where
  spent : deeds.countP Deed.isProbe = 1 → Barred s'
  barred : Barred s → deeds.countP Deed.isProbe = 0 ∧ Barred s'

theorem countP_append (l l' : List Deed) :
    (l ++ l').countP Deed.isProbe = l.countP Deed.isProbe + l'.countP Deed.isProbe :=
  List.countP_append

theorem Spends.append {s'' : Scheduler} {attempts attempts' : List (DocumentId × Decision)}
    {deeds deeds' : List Deed} (h : Spends s attempts deeds s')
    (h' : Spends s' attempts' deeds' s'') :
    Spends s (attempts ++ attempts') (deeds ++ deeds') s'' where
  attempted := by rw [List.filterMap_append, h.attempted, h'.attempted]
  asks := by
    rw [List.filterMap_append]
    exact h.asks.trans h'.asks
  available := by
    intro id token k hk
    rcases List.mem_append.mp hk with hk | hk
    · exact h.available id token k hk
    · exact h'.available id token k hk
  once := by
    have honce := h.once
    have honce' := h'.once
    rw [countP_append]
    by_cases hp : deeds.countP Deed.isProbe = 1
    · have := (h'.barred (h.spent hp)).1
      omega
    · omega
  spent := by
    intro hp
    rw [countP_append] at hp
    have honce := h.once
    by_cases hp' : deeds.countP Deed.isProbe = 1
    · exact (h'.barred (h.spent hp')).2
    · exact h'.spent (by omega)
  barred := by
    intro hs
    obtain ⟨hnone, hs'⟩ := h.barred hs
    obtain ⟨hnone', hs''⟩ := h'.barred hs'
    exact ⟨by rw [countP_append, hnone, hnone'], hs''⟩

theorem Spends.attempt {attempts : List (DocumentId × Decision)} {deeds : List Deed}
    (h : Spends s attempts deeds s') (id : DocumentId) (decision : Decision) :
    Spends s ((id, decision) :: attempts) (.attempt id decision :: deeds) s' where
  attempted := by rw [List.filterMap_cons, Deed.attempted?, h.attempted]
  asks := h.asks
  available := by
    intro id' token k hk
    exact h.available id' token k ((List.mem_cons.mp hk).resolve_left nofun)
  once := h.once
  spent := h.spent
  barred := h.barred

theorem countP_asksBetween {tags : List LaunchTag} (h : Asks s tags s')
    (hprobe : ∀ interpreter, .probe interpreter ∉ tags) :
    (asksBetween s s').countP Deed.isProbe = 0 := by
  rw [h.between, List.countP_eq_zero]
  intro deed hdeed
  obtain ⟨tag, htag, rfl⟩ := List.mem_map.mp hdeed
  cases tag with
  | probe interpreter => exact absurd htag (hprobe interpreter)
  | trace | install => exact Bool.false_ne_true

theorem Bounded.of_asks {tags : List LaunchTag} (h : Asks s tags s')
    (hprobe : ∀ interpreter, .probe interpreter ∉ tags)
    (htrace : ∀ id token, .trace id token ∈ tags → verdict s = .available) :
    Bounded s [] (asksBetween s s') s' where
  attempted := by
    rw [h.between]
    refine List.filterMap_eq_nil_iff.mpr fun deed hdeed => ?_
    obtain ⟨tag, -, rfl⟩ := List.mem_map.mp hdeed
    rfl
  asks := by
    rw [h.between, tags_asks]
    exact h
  available := by
    intro id token k hk
    rw [h.between] at hk
    obtain ⟨tag, htag, he⟩ := List.mem_map.mp hk
    cases he
    exact htrace id token htag
  once := by
    rw [countP_asksBetween h hprobe]
    exact Nat.zero_le 1

/-- Runs are asked for where the tracer is known to be there. -/
theorem Spends.of_available {tags : List LaunchTag} (h : Asks s tags s')
    (hs : verdict s = .available) (hprobe : ∀ interpreter, .probe interpreter ∉ tags) :
    Spends s [] (asksBetween s s') s' where
  toBounded := .of_asks h hprobe fun _ _ _ => hs
  spent := by
    rw [countP_asksBetween h hprobe]
    exact nofun
  barred := by
    rintro (h | h) <;>
    · rw [hs] at h
      cases h

/-- A probe is asked for only while nothing is known. -/
theorem Spends.of_probe {interpreter : Path} {before : List Event} {k : Status}
    (h : Asks s [.probe interpreter] s') (hs : verdict s = .unknown) (hs' : Barred s') :
    Spends s [] [.beginProbe interpreter before, .ask (.probe interpreter) k] s' where
  attempted := rfl
  asks := h
  available := by simp
  once := Nat.le_refl 1
  spent := fun _ => hs'
  barred := by
    rintro (h | h) <;>
    · rw [hs] at h
      cases h

/-- Nothing is asked for, and nothing learnt. -/
structure Quiet (s s' : Scheduler) : Prop where
  asks : Asks s [] s'
  availability : s'.availability = s.availability

theorem Quiet.same_verdict (h : Quiet s s') : verdict s' = verdict s := by
  rw [verdict, verdict, Scheduler.interpreter, h.asks.options, h.availability]
  rfl

theorem Quiet.spends (h : Quiet s s') : Spends s [] [] s' where
  attempted := rfl
  asks := h.asks
  available := by simp
  once := by simp
  spent := by simp
  barred := by
    rw [Barred, Barred, h.same_verdict]
    exact fun hs => ⟨rfl, hs⟩

theorem Quiet.of_eq (ho : s'.options = s.options) (ha : s'.availability = s.availability)
    (he : s'.events = s.events) : Quiet s s' :=
  ⟨.of_eq ho he, ha⟩

theorem Quiet.trans {s'' : Scheduler} (h : Quiet s s') (h' : Quiet s' s'') : Quiet s s'' :=
  ⟨h.asks.trans h'.asks, h'.availability.trans h.availability⟩

theorem quiet_update (s : Scheduler) (id : DocumentId) (f : Slot → Slot) : Quiet s (s.update id f) :=
  .of_eq rfl rfl rfl

theorem quiet_notify (s : Scheduler) (notice : Notice) : Quiet s (s.notify notice) :=
  .of_eq rfl rfl rfl

theorem asks_emit (s : Scheduler) (e : Event) : Asks s (asked? e).toList (s.emit e) := by
  refine ⟨rfl, [e], rfl, ?_⟩
  cases h : asked? e <;> simp [h]

theorem quiet_log (s : Scheduler) (level : Log.Level) (message : String)
    (values : List (String × String)) : Quiet s (s.log level message values) :=
  ⟨asks_emit s (.logged ⟨level, .scheduler, message, values⟩), rfl⟩

theorem quiet_supersede (env : Surroundings) (s : Scheduler) (id : DocumentId) (slot : Slot) :
    Quiet s (s.supersede env id slot).1 := by
  unfold Scheduler.supersede
  cases slot.active with
  | none => exact .of_eq rfl rfl rfl
  | some run =>
    have hlog := quiet_log s .debug "superseding running trace"
      [("document", id), ("token", toString run.token)]
    dsimp only
    split
    · exact hlog
    · next n _ =>
      have hkill := hlog.trans ⟨asks_emit _ (.killed n), rfl⟩
      split
      · exact hkill
      · exact hkill.trans (quiet_log _ _ _ _)

theorem quiet_givenUp (env : Surroundings) (s : Scheduler) (id : DocumentId) (slot : Slot) :
    Quiet s (givenUp env s id slot) :=
  (quiet_supersede env s id slot).trans (quiet_update _ _ _)

theorem quiet_readyFor (calm : Bool) (s : Scheduler) (id : DocumentId) :
    Quiet s (readyFor calm s id) := by
  cases calm with
  | false => exact .of_eq rfl rfl rfl
  | true => exact quiet_update _ _ _

theorem quiet_prompt (s : Scheduler) (interpreter : Path) (id : DocumentId) :
    Quiet s (s.prompt interpreter id) := by
  unfold Scheduler.prompt
  split
  · exact .of_eq rfl rfl rfl
  · split <;> exact .of_eq rfl rfl rfl

theorem quiet_promptWaiting (s : Scheduler) (interpreter : Path) :
    Quiet s (s.promptWaiting interpreter) := by
  unfold Scheduler.promptWaiting
  generalize s.waiting interpreter = ids
  induction ids generalizing s with
  | nil => exact .of_eq rfl rfl rfl
  | cons id rest ih => exact (quiet_prompt s interpreter id).trans (ih _)

theorem asks_launch (env : Surroundings) (s : Scheduler) (spec : LaunchSpec) (tag : LaunchTag) :
    Asks s [tag] (s.launch env spec tag).1 ∧
      (s.launch env spec tag).1.availability = s.availability := by
  unfold Scheduler.launch
  split <;> exact ⟨⟨rfl, _, rfl, rfl⟩, rfl⟩

theorem asks_failLaunch (s : Scheduler) (snapshot : Snapshot) (token : Token) (fault : LaunchFault) :
    Asks s [] (s.failLaunch snapshot token fault) := by
  have hlog := (quiet_log s .warn "tracer could not be started"
    [("document", snapshot.document), ("error", fault.message)]).asks
  cases fault <;> exact hlog.trans (.of_eq rfl rfl)

/-- The scheduler once the process of a run has been asked for, and what came of it. -/
def tried (env : Surroundings) (s : Scheduler) (snapshot : Snapshot) :
    Scheduler × Except LaunchFault Nat :=
  let prepared := prepare env s.options snapshot
    ((s.slot? snapshot.document).bind (·.scratch)) s.scratches
  let ready := { s with
    lastToken := s.lastToken + 1
    scratches := prepared.asked
    events := s.events ++ prepared.events }.update snapshot.document
      fun slot => { slot with scratch := prepared.scratch }
  match prepared.spec with
  | .error fault => (ready, .error fault)
  | .ok spec => ready.launch env spec (.trace snapshot.document (s.lastToken + 1))

/-- Starting a run asks for its process, unless the source could not be copied. -/
theorem asks_tried (env : Surroundings) (s : Scheduler) (snapshot : Snapshot) :
    ∃ tags, Asks s tags (tried env s snapshot).1 ∧
      ∀ tag ∈ tags, tag = .trace snapshot.document (s.lastToken + 1) := by
  have hprepare := filterMap_prepare (f := asked?) (fun e he => by cases he <;> rfl) env s.options
    snapshot ((s.slot? snapshot.document).bind (·.scratch)) s.scratches
  unfold tried
  dsimp only
  generalize prepare env s.options snapshot ((s.slot? snapshot.document).bind (·.scratch))
    s.scratches = prepared at *
  have hready : Asks s [] ({ s with
      lastToken := s.lastToken + 1
      scratches := prepared.asked
      events := s.events ++ prepared.events : Scheduler }.update snapshot.document
        fun slot => { slot with scratch := prepared.scratch }) :=
    ⟨rfl, prepared.events, rfl, hprepare⟩
  cases prepared.spec with
  | error fault => exact ⟨[], hready, by simp⟩
  | ok spec => exact ⟨_, hready.trans (asks_launch ..).1, by simp⟩

theorem asks_startRun (env : Surroundings) (s : Scheduler) (snapshot : Snapshot) :
    Asks (tried env s snapshot).1 [] (s.startRun env snapshot).1 := by
  unfold Scheduler.startRun tried
  dsimp only
  generalize prepare env s.options snapshot ((s.slot? snapshot.document).bind (·.scratch))
    s.scratches = prepared
  have hstarted : ∀ (s' : Scheduler) (f : Slot → Slot) (values : List (String × String))
      (notice : Notice), Asks s' [] (((s'.update snapshot.document f).log .info "trace run started"
        values).notify notice) := fun s' f values notice =>
    ((quiet_update s' _ f).trans ((quiet_log _ _ _ values).trans (quiet_notify _ notice))).asks
  cases prepared.spec with
  | error fault => exact asks_failLaunch _ _ _ _
  | ok spec =>
    dsimp only
    generalize Scheduler.launch env _ spec _ = launched
    obtain ⟨s', fault | process⟩ := launched
    · exact asks_failLaunch _ _ _ _
    · exact hstarted _ _ _ _

theorem spends_startRun (env : Surroundings) (hs : verdict s = .available) (snapshot : Snapshot) :
    Spends s [] (asksBetween s (s.startRun env snapshot).1) (s.startRun env snapshot).1 := by
  obtain ⟨tags, hasks, htags⟩ := asks_tried env s snapshot
  have hall := hasks.trans (asks_startRun env s snapshot)
  rw [List.append_nil] at hall
  exact .of_available hall hs fun interpreter hm => LaunchTag.noConfusion (htags _ hm)

theorem verdict_eq {availability : Availability} (ho : s'.options = s.options)
    (ha : s'.availability = availability) : verdict s' = availability.status s.interpreter := by
  rw [verdict, Scheduler.interpreter, ho, ha]
  rfl

/-- A moment among attempts, with nothing but acts of attempts behind it. -/
def Amid (s u : Scheduler) : Prop :=
  ∃ l, Acts s l u ∧ ∀ a ∈ l, isAttempting s.interpreter a = true

theorem Amid.refl (s : Scheduler) : Amid s s := ⟨[], .nil s, nofun⟩

theorem Amid.trans {u v : Scheduler} (h : Amid s u) (h' : Amid u v) : Amid s v := by
  obtain ⟨l, hl, hall⟩ := h
  obtain ⟨l', hl', hall'⟩ := h'
  have hi : u.interpreter = s.interpreter := congrArg Options.interpreter (options_acts hl)
  refine ⟨l ++ l', hl.append hl', fun a ha => ?_⟩
  rcases List.mem_append.mp ha with ha | ha
  · exact hall a ha
  · exact hi ▸ hall' a ha

theorem Amid.formed {u : Scheduler} (h : Amid s u) (hf : Formed s) : Formed u := by
  obtain ⟨l, hl, -⟩ := h
  exact hf.acts hl

theorem amid_gate (hs : s.slot? id = some slot) : Amid s (s.gate id) := by
  refine ⟨[.park id], .single ?_, by simp [isAttempting]⟩
  rw [Scheduler.gate, update_eq_put hs]
  exact .park hs

theorem amid_givenUp (env : Surroundings) (hf : Formed s) (hs : s.slot? id = some slot) :
    Amid s (givenUp env s id slot) := by
  obtain ⟨⟨a, hbegins, hfirst⟩, -⟩ := givenUp_does env hf hs
  refine ⟨[a], .single hfirst, ?_⟩
  cases hbegins <;> simp [isAttempting]

theorem amid_readyFor (calm : Bool) (s : Scheduler) (id : DocumentId) :
    Amid s (readyFor calm s id) := by
  cases calm with
  | false => exact .refl s
  | true =>
    cases hs : s.slot? id with
    | none =>
      have hsame : readyFor true s id = s := update_none hs _
      rw [hsame]
      exact .refl s
    | some slot => exact ⟨[.calm id], .single (calm_does hs).1, by simp [isAttempting]⟩

theorem amid_launchLatest (env : Surroundings) (hf : Formed s) (id : DocumentId) :
    Amid s (s.launchLatest env id).1 := by
  cases hs : s.slot? id with
  | none =>
    rw [launchLatest_none env hs]
    exact .refl s
  | some slot =>
    obtain ⟨l, hl⟩ := launch_unfolds env hf hs
    exact ⟨l, hl.acts, hl.attempting⟩

/-- Every probe is begun among attempts, while nothing is known of the interpreter. -/
def BegunAmid (s : Scheduler) (deeds : List Deed) : Prop :=
  ∀ interpreter before, .beginProbe interpreter before ∈ deeds →
    ∃ u, Amid s u ∧ u.events = before ∧ verdict u = .unknown

section BegunAmid

variable {deeds deeds' : List Deed}

theorem begunAmid_nil (s : Scheduler) : BegunAmid s [] := nofun

theorem begunAmid_asksBetween (s t t' : Scheduler) : BegunAmid s (asksBetween t t') := by
  intro interpreter before h
  obtain ⟨tag, -, he⟩ := List.mem_map.mp h
  cases he

theorem BegunAmid.attempt (h : BegunAmid s deeds) (id : DocumentId) (decision : Decision) :
    BegunAmid s (.attempt id decision :: deeds) := fun interpreter before hm =>
  h interpreter before ((List.mem_cons.mp hm).resolve_left nofun)

theorem BegunAmid.append (h : BegunAmid s deeds) (h' : BegunAmid s deeds') :
    BegunAmid s (deeds ++ deeds') := fun interpreter before hm =>
  (List.mem_append.mp hm).elim (h interpreter before) (h' interpreter before)

theorem BegunAmid.after (h : BegunAmid s' deeds) (ha : Amid s s') : BegunAmid s deeds := by
  intro interpreter before hm
  obtain ⟨u, hu, hrest⟩ := h interpreter before hm
  exact ⟨u, ha.trans hu, hrest⟩

end BegunAmid

theorem resolveCall_unavailable (env : Surroundings) {interpreter : Path}
    (h : s.availability.status interpreter = .unavailable) (n : Nat) :
    resolveCall env (n + 1) s interpreter = some (s.promptWaiting interpreter, []) := by
  rw [resolveCall, h]

/-- A probe is begun and asked for, and if it is refused the documents that wait are prompted. -/
theorem probeCall_eq (env : Surroundings) (hs : verdict s = .unknown) :
    ∃ deeds, (∀ n, probeCall env (n + 2) s s.interpreter = some (s.startProbe env, deeds)) ∧
      Spends s [] deeds (s.startProbe env) ∧ BegunAmid s deeds := by
  obtain ⟨availability, hbegin, hprobing⟩ := beginProbe_of_unknown hs
  have hlog := (quiet_log { s with availability } .info "probing tracer availability"
    [("interpreter", s.interpreter)]).asks
  simp only [probeCall, Scheduler.startProbe, hbegin]
  have hbegun : ({ s with availability : Scheduler }.log .info "probing tracer availability"
      [("interpreter", s.interpreter)]).availability = availability := rfl
  generalize { s with availability : Scheduler }.log .info "probing tracer availability"
    [("interpreter", s.interpreter)] = begun at hlog hbegun ⊢
  have hbegun' : Asks s [] begun := ⟨hlog.options, hlog.asked⟩
  obtain ⟨hlaunch, hkept⟩ := asks_launch env begun begun.options.probeSpec (.probe s.interpreter)
  generalize begun.launch env begun.options.probeSpec (.probe s.interpreter) = launched
    at hlaunch hkept ⊢
  have hasks := hbegun'.trans hlaunch
  have hamid (k : Status) : BegunAmid s
      [.beginProbe s.interpreter s.events, .ask (.probe s.interpreter) k] := by
    intro interpreter before hm
    simp only [List.mem_cons, Deed.beginProbe.injEq, List.not_mem_nil, or_false] at hm
    obtain ⟨-, rfl⟩ | hm := hm
    · exact ⟨s, .refl s, rfl, hs⟩
    · cases hm
  obtain ⟨s', fault | process⟩ := launched
  · have hwarn := (quiet_log s' .warn "availability probe could not start"
      [("interpreter", s.interpreter), ("error", fault.message)]).asks
    dsimp only at hasks ⊢
    generalize s'.log .warn "availability probe could not start"
      [("interpreter", s.interpreter), ("error", fault.message)] = warned at hwarn ⊢
    have hunavailable := status_finishProbe warned.availability s.interpreter false
    have hquiet := quiet_promptWaiting { warned with
      availability := warned.availability.finishProbe s.interpreter false } s.interpreter
    have hasks' : Asks s [.probe s.interpreter] _ := (hasks.trans hwarn).trans
      ⟨hquiet.asks.options, hquiet.asks.asked⟩
    refine ⟨.beginProbe s.interpreter s.events :: asksBetween begun s' ++ [], fun n => ?_, ?_⟩
    · rw [resolveCall_unavailable env hunavailable]
      rfl
    · rw [List.append_nil, hlaunch.between]
      refine ⟨.of_probe hasks' hs (.inr ?_), hamid _⟩
      rw [verdict_eq hasks'.options hquiet.availability, hunavailable]
      rfl
  · refine ⟨_, fun n => rfl, ?_⟩
    rw [hlaunch.between]
    refine ⟨.of_probe hasks hs (.inl ?_), hamid _⟩
    rw [verdict_eq hasks.options (hkept.trans hbegun), hprobing]

theorem request_supersede (env : Surroundings) (s : Scheduler) (id : DocumentId) (slot : Slot) :
    (s.supersede env id slot).2.request = slot.request := by
  unfold Scheduler.supersede
  split <;> rfl

theorem proceedCall_eq (env : Surroundings) (s : Scheduler) (id : DocumentId) (snapshot : Snapshot) :
    ∃ deeds, (∀ n, proceedCall env (probeCall env (n + 2)) s id snapshot =
        some ((proceed env s id snapshot).1, (proceed env s id snapshot).2, deeds)) ∧
      Spends s [(id, (proceed env s id snapshot).2)] deeds (proceed env s id snapshot).1 ∧
      ((s.slot? id).isSome → BegunAmid s deeds) := by
  have hgate : Quiet s (s.gate id) := quiet_update _ _ _
  have hplain (decision : Decision) : BegunAmid s [.attempt id decision] :=
    (begunAmid_nil s).attempt id decision
  unfold proceedCall proceed
  rw [← verdict]
  cases hk : verdict s with
  | available =>
    exact ⟨_, fun n => rfl, (spends_startRun env hk snapshot).attempt id _,
      fun _ => (begunAmid_asksBetween s _ _).attempt id _⟩
  | unavailable =>
    exact ⟨_, fun n => rfl, (hgate.trans (quiet_prompt _ _ _)).spends.attempt id _,
      fun _ => hplain _⟩
  | probing => exact ⟨_, fun n => rfl, hgate.spends.attempt id _, fun _ => hplain _⟩
  | unknown =>
    obtain ⟨deeds, hprobe, hspends, hbegun⟩ := probeCall_eq env (hgate.same_verdict.trans hk)
    have hattempt := (hgate.spends.append hspends).attempt id
    have hamid (hopen : (s.slot? id).isSome) : BegunAmid s deeds := by
      obtain ⟨slot, hslot⟩ := Option.isSome_iff_exists.mp hopen
      exact hbegun.after (amid_gate hslot)
    dsimp only
    rw [← verdict, show s.interpreter = (s.gate id).interpreter from rfl]
    cases hk' : verdict ((s.gate id).startProbe env) with
    | unavailable =>
      exact ⟨_, fun n => by rw [hprobe]; simp [hk'], hattempt (.notRun .unavailable),
        fun hopen => (hamid hopen).attempt id _⟩
    | unknown | probing | available =>
      exact ⟨_, fun n => by rw [hprobe]; simp [hk'], hattempt .awaitingAvailability,
        fun hopen => (hamid hopen).attempt id _⟩

theorem launchCall_eq (env : Surroundings) (s : Scheduler) (id : DocumentId) :
    ∃ deeds, (∀ n, launchCall env (n + 3) s id =
        some ((s.launchLatest env id).1, (s.launchLatest env id).2, deeds)) ∧
      Spends s [(id, (s.launchLatest env id).2)] deeds (s.launchLatest env id).1 ∧
      (Formed s → BegunAmid s deeds) := by
  have hplain (decision : Decision) (_ : Formed s) : BegunAmid s [.attempt id decision] :=
    (begunAmid_nil s).attempt id decision
  cases hs : s.slot? id with
  | none =>
    rw [launchLatest_none env hs]
    exact ⟨_, fun n => by rw [launchCall, hs], (Quiet.of_eq rfl rfl rfl).spends.attempt id _,
      hplain _⟩
  | some slot =>
    have hkept := request_supersede env s id slot
    have hgivenUp := quiet_givenUp env s id slot
    cases hr : slot.request with
    | none =>
      have he : s.launchLatest env id = (givenUp env s id slot, .notRun .noRequest) := by
        simp only [Scheduler.launchLatest, hs, hkept, hr]
        rfl
      rw [he]
      exact ⟨_, fun n => by simp only [launchCall, hs, hr], hgivenUp.spends.attempt id _,
        hplain _⟩
    | some snapshot =>
      obtain ⟨deeds, hcall, hspends, hbegun⟩ :=
        proceedCall_eq env (givenUp env s id slot) id snapshot
      rw [launchLatest_eq env hs (hkept.trans hr)]
      refine ⟨deeds, fun n => by simp only [launchCall, hs, hr, hcall],
        hgivenUp.spends.append hspends, fun hf => ?_⟩
      obtain ⟨-, slot', hs', -⟩ := givenUp_does env hf hs
      exact (hbegun (by simp [hs'])).after (amid_givenUp env hf hs)

/-- Attempts for documents in turn are one attempt after the other. -/
theorem eachCall_eq (calm : Bool) (env : Surroundings) (ids : List DocumentId) (s : Scheduler) :
    ∃ deeds, (∀ n, eachCall calm (launchCall env (n + 3)) s ids =
        some ((attemptEach calm env s ids).1, (attemptEach calm env s ids).2, deeds)) ∧
      Spends s (attemptEach calm env s ids).2 deeds (attemptEach calm env s ids).1 ∧
      (Formed s → BegunAmid s deeds) := by
  induction ids generalizing s with
  | nil => exact ⟨[], fun n => rfl, (Quiet.of_eq rfl rfl rfl).spends, fun _ => begunAmid_nil s⟩
  | cons id rest ih =>
    obtain ⟨deeds, hlaunch, hspends, hbegun⟩ := launchCall_eq env (readyFor calm s id) id
    obtain ⟨more, hrest, hspends', hbegun'⟩ := ih ((readyFor calm s id).launchLatest env id).1
    refine ⟨deeds ++ more, fun n => ?_, ?_, fun hf => ?_⟩
    · rw [eachCall, hlaunch]
      simp only [Option.bind_eq_bind, Option.bind_some, hrest]
      rfl
    · exact ((quiet_readyFor calm s id).spends.append hspends).append hspends'
    · have hready := amid_readyFor calm s id
      have hf' := hready.formed hf
      have hafter := amid_launchLatest env hf' id
      exact ((hbegun hf').after hready).append
        ((hbegun' (hafter.formed hf')).after (hready.trans hafter))

theorem resolveCall_eq (env : Surroundings) (s : Scheduler) (interpreter : Path) :
    ∃ deeds, (∀ n, resolveCall env (n + 4) s interpreter =
        some (s.resolveGated env interpreter, deeds)) ∧
      Spends s (if s.availability.status interpreter = .available then
        launches env s (s.waiting interpreter) else []) deeds (s.resolveGated env interpreter) ∧
      (Formed s → BegunAmid s deeds) := by
  unfold Scheduler.resolveGated
  cases hst : s.availability.status interpreter with
  | available =>
    obtain ⟨deeds, heach, hspends, hbegun⟩ := eachCall_eq false env (s.waiting interpreter) s
    rw [launches_eq] at heach hspends
    refine ⟨deeds, fun n => ?_, hspends, hbegun⟩
    rw [resolveCall, hst]
    simp only [heach, Option.bind_eq_bind, Option.bind_some]
  | unavailable =>
    exact ⟨[], fun n => resolveCall_unavailable env hst (n + 3),
      (quiet_promptWaiting s interpreter).spends, fun _ => begunAmid_nil s⟩
  | unknown | probing =>
    exact ⟨[], fun n => by rw [resolveCall, hst], (Quiet.of_eq rfl rfl rfl).spends,
      fun _ => begunAmid_nil s⟩

end TraceView.Proofs.Run
