import Mathlib.Data.List.Induction
import Mathlib.Data.List.Nodup
import TraceView.Proofs.Run.Local

/-!
# Which completion is delivered

A trace completion counts if the run it belongs to is the last thing that happened to its document.
Whether it does is told from the turns so far and what they started, without a look into the slots;
the text delivered is the one the process was given to read.
-/
namespace TraceView.Proofs.Run

open TraceView.Run
open TraceView.Proofs.KeyOrder

/-- A turn starts the trace process of a token, in its only attempt for the document. -/
structure Starts (s : Scheduler) (t : Turn) (d : DocumentId) (token : Token) (text : String) :
    Prop where
  launched : ∃ process spec,
    .launched process spec (.trace d token) ∈ t.did s ∧ spec.stdin = some text
  once : (t.attempted s).count d = 1

/-- A turn that lets the result of a token be. -/
structure Spares (s : Scheduler) (t : Turn) (d : DocumentId) (token : Token) : Prop where
  unattempted : d ∉ t.attempted s
  unclosed : t.move ≠ .close d
  unheard : ∀ outcome, t.move ≠ .complete ⟨.trace d token, outcome⟩

/-- A document is open, a process was started for it with a text to read, and since then the
document was neither attempted nor closed, nor was the completion of that process heard. -/
structure Deliverable (s : Scheduler) (past : List Turn) (d : DocumentId) (token : Token)
    (text : String) : Prop where
  isOpen : ((play s past).slot? d).isSome
  started : ∃ before t later, past = before ++ t :: later ∧
    Starts (play s before) t d token text ∧
    ∀ mid u rest, later = mid ++ u :: rest →
      Spares (play s (before ++ t :: mid)) u d token

/-- The run a document has. -/
def activeOf (s : Scheduler) (d : DocumentId) : Option TraceRun := (bare s d).bind (·.active)

variable {s s' : Scheduler} {t : Turn} {d : DocumentId} {l : List Act} {run : TraceRun}

theorem activeOf_eq_some (h : activeOf s d = some run) :
    ∃ slot, s.slot? d = some slot ∧ slot.active = some run := by
  obtain ⟨x, hx, ha⟩ := Option.bind_eq_some_iff.mp h
  obtain ⟨slot, hs, rfl⟩ := Option.map_eq_some_iff.mp hx
  exact ⟨slot, hs, ha⟩

/-- What a turn makes of the run of a document, and by which processes. -/
inductive Sequel (s : Scheduler) (t : Turn) (d : DocumentId) : Prop where
  | started {process spec token text} (ha : d ∈ t.attempted s)
      (hl : ∀ n spec' k, .launched n spec' (.trace d k) ∈ t.did s ↔
        n = process ∧ spec' = spec ∧ k = token)
      (hi : spec.stdin = some text)
      (hr : activeOf (t.apply s) d =
        some ((TraceRun.new token s.interpreter text).start process))
  | ended (hl : ∀ n spec k, .launched n spec (.trace d k) ∉ t.did s)
      (hr : activeOf (t.apply s) d = none)
      (he : d ∈ t.attempted s ∨ t.move = .close d ∨ ∃ slot token outcome,
        s.slot? d = some slot ∧ slot.latest = some token ∧
          t.move = .complete ⟨.trace d token, outcome⟩)
  | spared (hl : ∀ n spec k, .launched n spec (.trace d k) ∉ t.did s)
      (hr : activeOf (t.apply s) d = activeOf s d)
      (ha : (s.slot? d).isSome → d ∉ t.attempted s)
      (hc : (s.slot? d).isSome → t.move ≠ .close d)
      (hh : ∀ slot token outcome, s.slot? d = some slot → slot.latest = some token →
        t.move ≠ .complete ⟨.trace d token, outcome⟩)

/-- Only the act that ends an attempt can be a start. -/
theorem start_mem_attempt {x : Option Slot} {slot : Slot} {pre : List Act} {b e : Act}
    (hw : Tries s t d x pre slot) (hb : Begins d b) {process : Nat} {spec : LaunchSpec}
    {token : Token} {copies : List Event} :
    .start d token process spec copies ∈ pre ++ [b, e] ↔
      e = .start d token process spec copies := by
  cases hw <;> cases hb <;> simp [eq_comm]

theorem sequel (hf : Formed s) (t : Turn) (d : DocumentId) : Sequel s t d := by
  obtain ⟨l, hl⟩ := turn_unfolds hf t
  have hlaunched := fun n spec k => hl.launched_iff d n spec k
  cases hl.fares hf d with
  | @attempted slot slot' pre b e hw ha hb hlist hz hran =>
    rw [hlist] at hlaunched
    simp only [start_mem_attempt hw hb] at hlaunched
    cases hran with
    | @started snapshot token process spec copies ended scratch hr hi =>
      refine @Sequel.started _ _ _ process spec token _ ha (fun n spec' k => ?_) hi ?_
      · rw [hlaunched]
        simp [eq_comm, and_comm, and_left_comm]
      · rw [activeOf, hz]
        rfl
    | failed | parked =>
      refine .ended (fun n spec k => ?_) ?_ (.inl ha)
      · simp [hlaunched]
      · rw [activeOf, hz]
        rfl
  | @accepted slot token outcome delivery ended hm hlist hx ht hz =>
    obtain ⟨slot', hs, rfl⟩ := Option.map_eq_some_iff.mp hx
    refine .ended (fun n spec k => ?_) ?_ (.inr (.inr ⟨slot', token, outcome, hs, ht, hm⟩))
    · simp [hlaunched, hlist]
    · rw [activeOf, hz]
      rfl
  | closed hm hlist hz =>
    refine .ended (fun n spec k => ?_) ?_ (.inr (.inl hm))
    · simp [hlaunched, hlist]
    · rw [activeOf, hz]
      rfl
  | edited hm hd hlist hz =>
    refine .spared (fun n spec k => ?_) ?_ ?_ (by simp [hm]) (by simp [hm])
    · simp [hlaunched, hlist]
    · rw [activeOf, hz, activeOf]
      cases bare s d <;> rfl
    · simp [Turn.attempted, Turn.attempts, hm]
  | installing hm ha hlist hz =>
    refine .spared (fun n spec k => ?_) ?_ ?_ (by simp [hm]) (by simp [hm])
    · cases ha <;> simp [hlaunched, hlist]
    · rw [activeOf, hz, activeOf]
      cases bare s d with
      | none => rfl
      | some slot =>
        rw [Option.map_some, gated]
        split <;> rfl
    · simp [Turn.attempted, Turn.attempts, hm]
  | aside h hlist hz =>
    refine .spared (fun n spec k => ?_) ?_ h.unattempted h.unclosed h.unheard
    · simp [hlaunched, hlist]
    · rw [activeOf, hz, activeOf]

/-- The runs of a document are those its turns start and no later turn ends. -/
theorem run_iff (hf : Formed s) (t : Turn) (d : DocumentId) (token : Token) (text : String) :
    (∃ run, activeOf (t.apply s) d = some run ∧ run.token = token ∧ run.source = text) ↔
      Starts s t d token text ∨
        (∃ run, activeOf s d = some run ∧ run.token = token ∧ run.source = text) ∧
          Spares s t d token := by
  obtain ⟨l, hl⟩ := turn_unfolds hf t
  have hopen : ∀ {run}, activeOf s d = some run → (s.slot? d).isSome := by
    intro run hrun
    obtain ⟨slot, hs, -⟩ := activeOf_eq_some hrun
    simp [hs]
  have hlatest : ∀ {run slot token'}, activeOf s d = some run → s.slot? d = some slot →
      slot.latest = some token' → token' = run.token := by
    intro run slot token' hrun hs hlt
    obtain ⟨slot', hs', ha⟩ := activeOf_eq_some hrun
    rw [hs] at hs'
    cases hs'
    rw [(hf.sound hs).latest, ha] at hlt
    exact (Option.some.inj hlt).symm
  cases sequel hf t d with
  | @started process spec token' text' ha hlaunched hi hr =>
    constructor
    · rintro ⟨run, hrun, rfl, rfl⟩
      rw [hr] at hrun
      cases hrun
      refine .inl ⟨⟨process, spec, (hlaunched _ _ _).mpr ⟨rfl, rfl, rfl⟩, hi⟩, ?_⟩
      exact List.count_eq_one_of_mem (hl.attempted_nodup hf) ha
    · rintro (⟨⟨n, spec', hev, hi'⟩, -⟩ | ⟨-, hsp⟩)
      · obtain ⟨rfl, rfl, rfl⟩ := (hlaunched _ _ _).mp hev
        rw [hi] at hi'
        cases hi'
        exact ⟨_, hr, rfl, rfl⟩
      · exact absurd ha hsp.unattempted
  | ended hno hr he =>
    constructor
    · rintro ⟨run, hrun, -⟩
      rw [hr] at hrun
      cases hrun
    · rintro (⟨⟨n, spec', hev, -⟩, -⟩ | ⟨⟨run, hrun, rfl, -⟩, hsp⟩)
      · exact absurd hev (hno _ _ _)
      · rcases he with ha | hc | ⟨slot, token', outcome, hs, hlt, hm⟩
        · exact absurd ha hsp.unattempted
        · exact absurd hc hsp.unclosed
        · cases hlatest hrun hs hlt
          exact absurd hm (hsp.unheard outcome)
  | spared hno hr ha hc hh =>
    rw [hr]
    constructor
    · rintro ⟨run, hrun, rfl, rfl⟩
      obtain ⟨slot, hs, hactive⟩ := activeOf_eq_some hrun
      refine .inr ⟨⟨run, hrun, rfl, rfl⟩, ha (hopen hrun), hc (hopen hrun), fun outcome => ?_⟩
      refine hh slot run.token outcome hs ?_
      rw [(hf.sound hs).latest, hactive]
      rfl
    · rintro (⟨⟨n, spec', hev, -⟩, -⟩ | ⟨hrun, -⟩)
      · exact absurd hev (hno _ _ _)
      · exact hrun

/-- A turn has started the process of a token and no later one has put an end to it. -/
def Pending (s : Scheduler) (past : List Turn) (d : DocumentId) (token : Token)
    (text : String) : Prop :=
  ∃ before t later, past = before ++ t :: later ∧ Starts (play s before) t d token text ∧
    ∀ mid u rest, later = mid ++ u :: rest → Spares (play s (before ++ t :: mid)) u d token

theorem pending_nil (s : Scheduler) (d : DocumentId) (token : Token) (text : String) :
    ¬ Pending s [] d token text := by
  rintro ⟨before, t, later, he, -⟩
  simp at he

theorem pending_snoc {past : List Turn} {token : Token} {text : String} :
    Pending s (past ++ [t]) d token text ↔
      Starts (play s past) t d token text ∨
        Pending s past d token text ∧ Spares (play s past) t d token := by
  constructor
  · rintro ⟨before, u, later, he, hstart, hspare⟩
    rcases split_snoc he with ⟨rfl, rfl, rfl⟩ | ⟨rest, rfl, rfl⟩
    · exact .inl hstart
    · refine .inr ⟨⟨before, u, rest, rfl, hstart, ?_⟩, hspare rest t [] rfl⟩
      intro mid v rest' hm
      exact hspare mid v (rest' ++ [t]) (by simp [hm])
  · rintro (hstart | ⟨⟨before, u, later, rfl, hstart, hspare⟩, hsp⟩)
    · refine ⟨past, t, [], rfl, hstart, fun mid v rest hm => ?_⟩
      simp at hm
    · refine ⟨before, u, later ++ [t], by simp, hstart, fun mid v rest hm => ?_⟩
      rcases split_snoc hm with ⟨rfl, rfl, rfl⟩ | ⟨rest', rfl, rfl⟩
      · exact hsp
      · exact hspare mid v rest' rfl

/-- The run of a document is the one that is pending. -/
theorem run_iff_pending (hf : Formed s) (hn : activeOf s d = none) (past : List Turn)
    (token : Token) (text : String) :
    (∃ run, activeOf (play s past) d = some run ∧ run.token = token ∧ run.source = text) ↔
      Pending s past d token text := by
  induction past using List.reverseRecOn with
  | nil =>
    refine ⟨?_, fun h => absurd h (pending_nil s d token text)⟩
    rintro ⟨run, hrun, -⟩
    rw [play_nil, hn] at hrun
    cases hrun
  | append_singleton past t ih =>
    rw [pending_snoc, ← ih, play_append]
    exact run_iff (formed_play hf past) t d token text

theorem deliverable_iff (hf : Formed s) (hn : activeOf s d = none) (past : List Turn)
    (token : Token) (text : String) :
    Deliverable s past d token text ↔
      ∃ run, activeOf (play s past) d = some run ∧ run.token = token ∧ run.source = text := by
  constructor
  · rintro ⟨-, h⟩
    exact (run_iff_pending hf hn past token text).mpr h
  · intro h
    refine ⟨?_, (run_iff_pending hf hn past token text).mp h⟩
    obtain ⟨run, hrun, -⟩ := h
    obtain ⟨slot, hs, -⟩ := activeOf_eq_some hrun
    exact Option.isSome_iff_exists.mpr ⟨slot, hs⟩

/-- A result is accepted for the active run, and is about what that run was given. -/
theorem accept_run (hf : Formed s) {token : Token} {delivery : Delivery}
    (h : Does s (.accept d token delivery) s') :
    ∃ run, activeOf s d = some run ∧ run.token = token ∧ delivery.source = run.source ∧
      delivery.interpreter = s.interpreter := by
  cases h with
  | @accept _ _ slot run outcome _ es hs hl ha hd =>
    have hsound := hf.sound hs
    refine ⟨run, ?_, ?_, congrArg Delivery.source hd, ?_⟩
    · rw [activeOf, bare_some hs]
      exact ha
    · rw [hsound.latest, ha] at hl
      exact Option.some.inj hl
    · exact (congrArg Delivery.interpreter hd).trans (hsound.manned run ha).2.1

/-- A trace completion is delivered exactly if its process is the pending one of an open document;
then there is one delivery, of the text that was traced. Any other changes nothing but the log. -/
theorem delivered_iff_deliverable (availability : Availability) (options : Options)
    (past : List Turn) (env : Surroundings) (now : Nat) (d : DocumentId) (token : Token)
    (outcome : Outcome) :
    let start := Scheduler.new availability options
    let s := play start past
    let t : Turn := ⟨env, now, .complete ⟨.trace d token, outcome⟩⟩
    ((∃ id k delivery, .delivered id k delivery ∈ t.told s) ↔
      ∃ text, Deliverable start past d token text) ∧
    (∀ text, Deliverable start past d token text →
      t.told s = [.delivered d token
        ⟨(classify outcome).1, (classify outcome).2, text, options.interpreter⟩]) ∧
    ((¬ ∃ text, Deliverable start past d token text) →
      ∃ es, effects es = [] ∧ t.apply s = { s with events := s.events ++ es }) := by
  intro start s t
  have hnew : Formed start := formed_new availability options
  have hf : Formed s := formed_play hnew past
  have hdeliverable := deliverable_iff (d := d) hnew rfl past token
  obtain ⟨l, hl⟩ := turn_unfolds hf t
  rcases hl.trace_cases rfl with ⟨delivery, hd, rfl, hdoes⟩ | ⟨rfl, hstale, es, hes, he⟩
  · have htold : t.told s = [.delivered d token delivery] := hl.told
    obtain ⟨run, hrun, htoken, hsource, hinterpreter⟩ := accept_run hf hdoes
    have hoptions : s.interpreter = options.interpreter :=
      congrArg Options.interpreter (options_play hnew past)
    have hown : Deliverable start past d token run.source :=
      (hdeliverable _).mpr ⟨run, hrun, htoken, rfl⟩
    refine ⟨⟨fun _ => ⟨_, hown⟩, fun _ => ⟨d, token, delivery, ?_⟩⟩, ?_, ?_⟩
    · rw [htold]
      exact List.mem_singleton_self _
    · intro text h
      obtain ⟨run', hrun', -, rfl⟩ := (hdeliverable text).mp h
      cases hrun.symm.trans hrun'
      rw [htold, ← hd, ← hsource, ← hoptions, ← hinterpreter]
    · exact fun h => absurd ⟨_, hown⟩ h
  · have htold : t.told s = [] := hl.told
    have hnone : ¬ ∃ text, Deliverable start past d token text := by
      rintro ⟨text, h⟩
      obtain ⟨run, hrun, rfl, -⟩ := (hdeliverable text).mp h
      obtain ⟨slot, hs, hactive⟩ := activeOf_eq_some hrun
      refine hstale slot hs ?_
      rw [(hf.sound hs).latest, hactive]
      rfl
    refine ⟨⟨?_, fun h => absurd h hnone⟩, fun text h => absurd ⟨text, h⟩ hnone,
      fun _ => ⟨es, hes, he⟩⟩
    rintro ⟨id, k, delivery, hm⟩
    rw [htold] at hm
    cases hm

end TraceView.Proofs.Run
