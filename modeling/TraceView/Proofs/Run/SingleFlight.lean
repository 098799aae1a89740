import TraceView.Proofs.Run.Local

/-!
# One trace process at a time

A trace process is live from its start until it is killed or its completion is accepted. The history
of a run records these three and nothing else, so what is live can be told from it without the
scheduler. Kills are recorded when they are asked for, whether or not they succeed.
-/
namespace TraceView.Proofs.Run

open TraceView.Run
open TraceView.Proofs.KeyOrder

inductive Mark where
  | started (process : Nat) (id : DocumentId) (token : Token)
  | killed (process : Nat)
  | accepted (id : DocumentId) (token : Token)
  deriving DecidableEq

def mark? : Event → Option Mark
  | .launched process _ (.trace id token) => some (.started process id token)
  | .killed process => some (.killed process)
  | _ => none

def delivered? : Notice → Option Mark
  | .delivered id token _ => some (.accepted id token)
  | _ => none

/-- What a turn adds to the history. A completion is accepted if it leads to a delivery. -/
def Turn.marks (t : Turn) (s : Scheduler) : List Mark :=
  match t.move with
  | .complete ⟨.trace .., _⟩ =>
    (t.told s).filterMap delivered? ++ (t.did s).filterMap mark?
  | _ => (t.did s).filterMap mark?

def history (s : Scheduler) : List Turn → List Mark
  | [] => []
  | t :: turns => t.marks s ++ history (t.apply s) turns

/-- Trace processes started for a document, with their tokens. -/
def starts (h : List Mark) (id : DocumentId) : List (Nat × Token) :=
  h.filterMap fun
    | .started process d token => if d = id then some (process, token) else none
    | _ => none

/-- Those of them that are neither killed nor accepted. -/
def live (h : List Mark) (id : DocumentId) : List (Nat × Token) :=
  (starts h id).filter fun f => .killed f.1 ∉ h ∧ .accepted id f.2 ∉ h

/-- A history in which no document ever has two live processes, and a scheduler whose runs are the
processes that are live. -/
structure SingleFlight (h : List Mark) (s : Scheduler) : Prop where
  atMostOne : ∀ past, past <+: h → ∀ id, (live past id).length ≤ 1
  active : ∀ id slot, s.slot? id = some slot →
    (slot.active = none ∧ slot.latest = none ∧ live h id = []) ∨
      ∃ run process, slot.active = some run ∧ run.process = some process ∧
        slot.latest = some run.token ∧ live h id = [(process, run.token)]
  closed : ∀ id, s.slot? id = none → live h id = []
  /-- A process is started under a new number, after all earlier ones of its document ended. -/
  cleared : ∀ past process id token rest, h = past ++ .started process id token :: rest →
    live past id = [] ∧ ∀ d k, .started process d k ∉ past
  aimed : ∀ past process rest, h = past ++ .killed process :: rest →
    ∃ id token, (process, token) ∈ live past id

theorem mem_starts {h : List Mark} {id : DocumentId} {process : Nat} {token : Token} :
    (process, token) ∈ starts h id ↔ .started process id token ∈ h := by
  rw [starts, List.mem_filterMap]
  constructor
  · rintro ⟨m, hm, hf⟩
    cases m with
    | started process' d token' =>
      simp only [Option.ite_none_right_eq_some, Option.some.injEq, Prod.mk.injEq] at hf
      obtain ⟨rfl, rfl, rfl⟩ := hf
      exact hm
    | killed | accepted => cases hf
  · intro hs
    exact ⟨_, hs, by simp⟩

theorem mem_live {h : List Mark} {id : DocumentId} {process : Nat} {token : Token} :
    (process, token) ∈ live h id ↔
      .started process id token ∈ h ∧ .killed process ∉ h ∧ .accepted id token ∉ h := by
  rw [live, List.mem_filter, mem_starts, decide_eq_true_eq]

theorem live_started {h : List Mark} {process : Nat} {d : DocumentId} {token : Token}
    (hk : .killed process ∉ h) (ha : .accepted d token ∉ h) (id : DocumentId) :
    live (h ++ [.started process d token]) id =
      live h id ++ if d = id then [(process, token)] else [] := by
  by_cases hd : d = id
  · subst hd
    simp [live, starts, hk, ha]
  · simp [live, starts, hd]

theorem live_killed (h : List Mark) (process : Nat) (id : DocumentId) :
    live (h ++ [.killed process]) id = (live h id).filter (·.1 ≠ process) := by
  have hs : starts (h ++ [.killed process]) id = starts h id := by
    simp [starts]
  rw [live, hs, live, List.filter_filter]
  refine List.filter_congr fun f _ => ?_
  by_cases hp : f.1 = process <;> simp [hp]

theorem live_accepted (h : List Mark) (d : DocumentId) (token : Token) (id : DocumentId) :
    live (h ++ [.accepted d token]) id =
      if d = id then (live h id).filter (·.2 ≠ token) else live h id := by
  have hs : starts (h ++ [.accepted d token]) id = starts h id := by
    simp [starts]
  by_cases hd : d = id
  · subst hd
    rw [if_pos rfl, live, hs, live, List.filter_filter]
    refine List.filter_congr fun f _ => ?_
    by_cases hp : f.2 = token <;> simp [hp]
  · rw [if_neg hd, live, hs, live]
    refine List.filter_congr fun f _ => ?_
    simp [Ne.symm hd]

/-- Only what is live ends, and nothing starts beside what is live. -/
def Fits (h : List Mark) : Mark → Prop
  | .started process id token =>
    live h id = [] ∧ (∀ d k, .started process d k ∉ h) ∧ ∀ n, .started n id token ∉ h
  | .killed process => ∃ id token, (process, token) ∈ live h id
  | .accepted id token => ∃ process, (process, token) ∈ live h id

inductive Orderly : List Mark → Prop where
  | nil : Orderly []
  | snoc {h m} (ho : Orderly h) (hm : Fits h m) : Orderly (h ++ [m])

section Order

variable {h : List Mark}

theorem Orderly.started_of_killed (ho : Orderly h) {process : Nat} (hk : .killed process ∈ h) :
    ∃ id token, .started process id token ∈ h := by
  induction ho with
  | nil => cases hk
  | @snoc h m ho hm ih =>
    rcases List.mem_append.mp hk with hk | hk
    · obtain ⟨id, token, hs⟩ := ih hk
      exact ⟨id, token, List.mem_append_left _ hs⟩
    · cases List.mem_singleton.mp hk
      obtain ⟨id, token, hl⟩ := hm
      exact ⟨id, token, List.mem_append_left _ (mem_live.mp hl).1⟩

theorem Orderly.started_of_accepted (ho : Orderly h) {id : DocumentId} {token : Token}
    (ha : .accepted id token ∈ h) : ∃ process, .started process id token ∈ h := by
  induction ho with
  | nil => cases ha
  | @snoc h m ho hm ih =>
    rcases List.mem_append.mp ha with ha | ha
    · obtain ⟨process, hs⟩ := ih ha
      exact ⟨process, List.mem_append_left _ hs⟩
    · cases List.mem_singleton.mp ha
      obtain ⟨process, hl⟩ := hm
      exact ⟨process, List.mem_append_left _ (mem_live.mp hl).1⟩

/-- A new start is live at once. -/
theorem Orderly.live_start (ho : Orderly h) {process : Nat} {d : DocumentId} {token : Token}
    (hm : Fits h (.started process d token)) (id : DocumentId) :
    live (h ++ [.started process d token]) id =
      live h id ++ if d = id then [(process, token)] else [] := by
  obtain ⟨-, hn, ht⟩ := hm
  refine live_started (fun hk => ?_) (fun ha => ?_) id
  · obtain ⟨d', k, hs⟩ := ho.started_of_killed hk
    exact hn d' k hs
  · obtain ⟨n, hs⟩ := ho.started_of_accepted ha
    exact ht n hs

theorem Orderly.distinct (ho : Orderly h) {process : Nat} {d d' : DocumentId} {k k' : Token}
    (hs : .started process d k ∈ h) (hs' : .started process d' k' ∈ h) : d = d' := by
  induction ho with
  | nil => cases hs
  | snoc ho hm ih =>
    rcases List.mem_append.mp hs with h | h <;> rcases List.mem_append.mp hs' with h' | h'
    · exact ih h h'
    · cases List.mem_singleton.mp h'
      exact absurd h (hm.2.1 _ _)
    · cases List.mem_singleton.mp h
      exact absurd h' (hm.2.1 _ _)
    · cases List.mem_singleton.mp h
      cases List.mem_singleton.mp h'
      rfl

theorem Orderly.length_le (ho : Orderly h) (id : DocumentId) : (live h id).length ≤ 1 := by
  induction ho with
  | nil => exact Nat.zero_le 1
  | @snoc h m ho hm ih =>
    cases m with
    | started process d token =>
      rw [ho.live_start hm]
      by_cases hd : d = id
      · subst hd
        simp [hm.1]
      · simpa [hd] using ih
    | killed process =>
      rw [live_killed]
      exact Nat.le_trans (List.length_filter_le ..) ih
    | accepted d token =>
      rw [live_accepted]
      split
      · exact Nat.le_trans (List.length_filter_le ..) ih
      · exact ih

theorem Orderly.take (ho : Orderly h) {past : List Mark} (hp : past <+: h) : Orderly past := by
  induction ho with
  | nil => exact List.prefix_nil.mp hp ▸ .nil
  | snoc ho hm ih =>
    rcases List.prefix_concat_iff.mp hp with rfl | hp
    · exact .snoc ho hm
    · exact ih hp

theorem Orderly.fits (ho : Orderly h) {past rest : List Mark} {m : Mark}
    (he : h = past ++ m :: rest) : Fits past m := by
  have hp : past ++ [m] <+: h := ⟨rest, by simp [he]⟩
  generalize hl : past ++ [m] = l at hp
  cases ho.take hp with
  | nil => simp at hl
  | snoc ho hm =>
    obtain ⟨rfl, he'⟩ := List.append_inj' hl rfl
    cases he'
    exact hm

end Order

/-- The process and token of the active run of a slot. -/
def flights (x : Option Slot) : List (Nat × Token) :=
  (x.bind (·.active)).toList.flatMap fun run => run.process.toList.map (·, run.token)

/-- The history agrees with the scheduler. -/
structure Tracks (h : List Mark) (s : Scheduler) : Prop where
  orderly : Orderly h
  flying : ∀ id, live h id = flights (bare s id)
  counted : ∀ process id token, .started process id token ∈ h →
    process < s.processes ∧ token ≤ s.lastToken

def Act.marks : Act → List Mark
  | .start id token process _ _ => [.started process id token]
  | .kill _ _ process => [.killed process]
  | .close _ process _ => process.toList.map Mark.killed
  | .accept id token _ => [.accepted id token]
  | _ => []

section Steps

variable {h : List Mark} {s s' : Scheduler} {a : Act} {id : DocumentId} {slot : Slot}

theorem flights_active {x : Option Slot} {run : TraceRun} {process : Nat} (hx : x = some slot)
    (ha : slot.active = some run) (hp : run.process = some process) :
    flights x = [(process, run.token)] := by
  simp [flights, hx, ha, hp]

/-- An act that leaves no mark leaves the run as it is. -/
theorem flights_local {interpreter : Path} {x y : Option Slot} (h : Local interpreter x a y)
    (hm : a.marks = []) : flights y = flights x := by
  cases h with
  | ask => cases x <;> rfl
  | @installs _ _ _ ha =>
    cases x with
    | none => rfl
    | some slot =>
      rw [Option.map_some, gated]
      split <;> rfl
  | @close slot id scratch =>
    cases ha : slot.active with
    | none => simp [flights, ha]
    | some run =>
      cases hp : run.process with
      | none => simp [flights, ha, hp]
      | some process => simp [Act.marks, ha, hp] at hm
  | kill | start | accept => cases hm
  | _ => rfl

theorem Tracks.unmarked (ht : Tracks h s) (hd : Does s a s') (hm : a.marks = []) :
    Tracks h s' where
  orderly := ht.orderly
  flying := by
    intro id
    rw [ht.flying]
    by_cases hid : a.subject = some id
    · exact (flights_local (local_does hd hid) hm).symm
    · rw [bare_does hd hid]
  counted := by
    intro process id token hs
    obtain ⟨hp, hk⟩ := ht.counted process id token hs
    obtain ⟨hp', hk'⟩ := counts_does hd
    exact ⟨Nat.lt_of_lt_of_le hp hp', Nat.le_trans hk hk'⟩

/-- A live process that ends leaves its document without one. -/
theorem Tracks.ended (ht : Tracks h s) (hd : Does s a s') {m : Mark} {id : DocumentId}
    {process : Nat} {token : Token} (hid : a.subject = some id)
    (hl : flights (bare s id) = [(process, token)]) (hl' : flights (bare s' id) = [])
    (hm : m = .killed process ∨ m = .accepted id token) : Tracks (h ++ [m]) s' := by
  have hmem : (process, token) ∈ live h id := by
    rw [ht.flying, hl]
    exact List.mem_singleton_self _
  have hfits : Fits h m := by
    rcases hm with rfl | rfl
    · exact ⟨id, token, hmem⟩
    · exact ⟨process, hmem⟩
  refine ⟨.snoc ht.orderly hfits, fun k => ?_, ?_⟩
  · by_cases hk : id = k
    · subst hk
      rw [hl']
      rcases hm with rfl | rfl
      · rw [live_killed, ht.flying, hl]
        simp
      · rw [live_accepted, if_pos rfl, ht.flying, hl]
        simp
    · rw [bare_does hd fun he => hk (Option.some.inj (hid.symm.trans he)), ← ht.flying]
      rcases hm with rfl | rfl
      · rw [live_killed, List.filter_eq_self]
        intro f hf
        have hne : f.1 ≠ process := by
          rintro rfl
          exact hk (ht.orderly.distinct (mem_live.mp hmem).1 (mem_live.mp hf).1)
        exact decide_eq_true hne
      · rw [live_accepted, if_neg hk]
  · intro process' d token' hs
    have hs' : .started process' d token' ∈ h := by
      rcases hm with rfl | rfl <;> simpa using hs
    obtain ⟨hp, hk⟩ := ht.counted process' d token' hs'
    obtain ⟨hp', hk'⟩ := counts_does hd
    exact ⟨Nat.lt_of_lt_of_le hp hp', Nat.le_trans hk hk'⟩

theorem Tracks.started (ht : Tracks h s) (hd : Does s a s') {d : DocumentId}
    (hid : a.subject = some d) (hl : flights (bare s d) = [])
    (hl' : flights (bare s' d) = [(s.processes, s.lastToken + 1)])
    (hp : s'.processes = s.processes + 1) (hk : s'.lastToken = s.lastToken + 1) :
    Tracks (h ++ [.started s.processes d (s.lastToken + 1)]) s' := by
  have hfits : Fits h (.started s.processes d (s.lastToken + 1)) := by
    refine ⟨(ht.flying d).trans hl, fun k token hs => ?_, fun process hs => ?_⟩
    · exact absurd (ht.counted _ _ _ hs).1 (Nat.lt_irrefl _)
    · exact absurd (ht.counted _ _ _ hs).2 (Nat.not_succ_le_self _)
  refine ⟨.snoc ht.orderly hfits, fun k => ?_, ?_⟩
  · rw [ht.orderly.live_start hfits, ht.flying]
    by_cases hk : d = k
    · subst hk
      rw [hl, hl', if_pos rfl]
      rfl
    · rw [bare_does hd fun he => hk (Option.some.inj (hid.symm.trans he)), if_neg hk,
        List.append_nil]
  · intro process k token hs
    rcases List.mem_append.mp hs with hs | hs
    · obtain ⟨hlt, hle⟩ := ht.counted process k token hs
      rw [hp, hk]
      exact ⟨Nat.lt_succ_of_lt hlt, Nat.le_succ_of_le hle⟩
    · cases List.mem_singleton.mp hs
      rw [hp, hk]
      exact ⟨Nat.lt_succ_self _, Nat.le_refl _⟩

/-- Every act keeps history and scheduler in agreement. -/
theorem Tracks.does (ht : Tracks h s) (hf : Formed s) (hd : Does s a s') :
    Tracks (h ++ a.marks) s' := by
  by_cases hm : a.marks = []
  · rw [hm, List.append_nil]
    exact ht.unmarked hd hm
  have hd' := hd
  cases hd with
  | @kill id slot run process es hs ha hp hes =>
    refine ht.ended hd' rfl (flights_active (bare_some hs) ha hp) ?_ (.inl rfl)
    exact congrArg flights (bare_put s id _ rfl)
  | @accept id token slot run outcome delivery es hs hl ha hdelivery hes =>
    obtain ⟨-, -, process, hp⟩ := (hf.sound hs).manned run ha
    have htoken : run.token = token := by
      have hlatest := (hf.sound hs).latest
      rw [hl, ha] at hlatest
      exact (Option.some.inj hlatest).symm
    subst htoken
    refine ht.ended hd' rfl (flights_active (bare_some hs) ha hp) ?_ (.inr rfl)
    exact congrArg flights (bare_put s id _ rfl)
  | @close id slot es hs hes =>
    cases ha : slot.active with
    | none =>
      rw [ha] at hm
      exact absurd rfl hm
    | some run =>
      obtain ⟨-, -, process, hp⟩ := (hf.sound hs).manned run ha
      rw [ha, Option.bind_some, hp] at hd'
      rw [Option.bind_some, hp]
      refine ht.ended hd' rfl (flights_active (bare_some hs) ha hp) ?_ (.inl rfl)
      exact congrArg flights (bare_erased s id rfl)
  | @start env p id slot snapshot spec es hs ha hr hv hp hok hes =>
    refine ht.started hd' rfl ?_ ?_ rfl rfl
    · simp [flights, bare_some hs, core, ha]
    · exact congrArg flights (bare_put s id _ rfl)
  | _ => exact absurd rfl hm

theorem Tracks.acts {l : List Act} (ht : Tracks h s) (hf : Formed s) (ha : Acts s l s') :
    Tracks (h ++ l.flatMap Act.marks) s' := by
  induction ha generalizing h with
  | nil => simpa using ht
  | cons first rest ih =>
    rw [List.flatMap_cons, ← List.append_assoc]
    exact ih (ht.does hf first) (hf.does first)

theorem mark?_prepare (env : Surroundings) (options : Options) (snapshot : Snapshot)
    (scratch : Option Path) (asked : Nat) :
    (prepare env options snapshot scratch asked).events.filterMap mark? = [] :=
  filterMap_prepare (by rintro _ ⟨⟩ <;> rfl) ..

/-- All marks but acceptances can be told from the events. -/
theorem marks_does (h : Does s a s') (ha : ∀ id token delivery, a ≠ .accept id token delivery) :
    a.effects.filterMap mark? = a.marks := by
  cases h with
  | start hs ha hr hv hp =>
    subst hp
    simp [Act.effects, Act.marks, mark?_prepare, mark?]
  | miscopy hs ha hr hv hp =>
    subst hp
    exact mark?_prepare ..
  | refuse hs ha hr hv hp =>
    subst hp
    simp [Act.effects, Act.marks, mark?_prepare, mark?]
  | accept => exact absurd rfl (ha _ _ _)
  | @close id slot =>
    cases slot.active.bind (·.process) <;> cases slot.scratch <;> rfl
  | _ => rfl

theorem marks_acts {l : List Act} (h : Acts s l s')
    (hl : ∀ a ∈ l, ∀ id token delivery, a ≠ .accept id token delivery) :
    (l.flatMap Act.effects).filterMap mark? = l.flatMap Act.marks := by
  induction h with
  | nil => rfl
  | cons first rest ih =>
    rw [List.flatMap_cons, List.flatMap_cons, List.filterMap_append,
      marks_does first (hl _ List.mem_cons_self),
      ih fun a ha => hl a (List.mem_cons_of_mem _ ha)]

/-- The history of a turn is the marks of its acts. -/
theorem Plays.marks {t : Turn} {l : List Act} (hf : Formed s) (h : Plays s t l (t.apply s)) :
    t.marks s = l.flatMap Act.marks := by
  have hdid : (∀ a ∈ l, ∀ id token delivery, a ≠ .accept id token delivery) →
      (t.did s).filterMap mark? = l.flatMap Act.marks := by
    intro hl
    rw [← filterMap_effects fun _ => rfl, h.did, marks_acts h.acts hl]
  have haccept : (∀ id token outcome, t.move ≠ .complete ⟨.trace id token, outcome⟩) →
      ∀ a ∈ l, ∀ id token delivery, a ≠ .accept id token delivery := by
    rintro hm a ha id token delivery rfl
    obtain ⟨outcome, hm'⟩ := (h.course hf id).accept_move (mem_about.mpr ⟨ha, rfl⟩)
    exact hm id token outcome hm'
  by_cases hm : ∃ id token outcome, t.move = .complete ⟨.trace id token, outcome⟩
  · obtain ⟨id, token, outcome, hm⟩ := hm
    have hmarks : t.marks s =
        (t.told s).filterMap delivered? ++ (t.did s).filterMap mark? := by
      simp only [Turn.marks, hm]
    rw [hmarks, h.told, ← filterMap_effects fun _ => rfl, h.did]
    rcases h.trace_cases hm with ⟨delivery, -, rfl, -⟩ | ⟨rfl, -, -⟩ <;> rfl
  · have hm' : ∀ id token outcome, t.move ≠ .complete ⟨.trace id token, outcome⟩ :=
      fun id token outcome he => hm ⟨id, token, outcome, he⟩
    rw [← hdid (haccept hm'), Turn.marks]
    split
    · next id token outcome he => exact absurd he (hm' id token outcome)
    · rfl

end Steps

/-- The history of a run agrees with the scheduler it ends in. -/
theorem tracks_play {s : Scheduler} {h : List Mark} (hf : Formed s) (ht : Tracks h s)
    (turns : List Turn) :
    Formed (play s turns) ∧ Tracks (h ++ history s turns) (play s turns) := by
  induction turns generalizing s h with
  | nil => exact ⟨hf, by simpa [history] using ht⟩
  | cons t turns ih =>
    obtain ⟨l, hl⟩ := turn_unfolds hf t
    have ht' := ht.acts hf hl.acts
    rw [← hl.marks hf] at ht'
    rw [history, ← List.append_assoc]
    exact ih (hf.acts hl.acts) ht'

/-- Whatever is asked for, refused, killed in vain or completed out of turn, a document has at most
one live trace process, which is the one of its active run. -/
theorem single_flight (availability : Availability) (options : Options) (turns : List Turn) :
    SingleFlight (history (.new availability options) turns)
      (play (.new availability options) turns) := by
  have ht : Tracks [] (.new availability options) := by
    refine ⟨.nil, fun id => rfl, ?_⟩
    intro process id token hs
    cases hs
  obtain ⟨hf, htrack⟩ := tracks_play (formed_new availability options) ht turns
  rw [List.nil_append] at htrack
  refine ⟨?_, ?_, ?_, ?_, ?_⟩
  · exact fun past hp id => (htrack.orderly.take hp).length_le id
  · intro id slot hs
    have hsound := hf.sound hs
    rw [htrack.flying, bare_some hs, hsound.latest]
    cases ha : slot.active with
    | none => exact .inl ⟨rfl, rfl, by simp [flights, core, ha]⟩
    | some run =>
      obtain ⟨-, -, process, hp⟩ := hsound.manned run ha
      exact .inr ⟨run, process, rfl, hp, rfl, flights_active rfl ha hp⟩
  · intro id hs
    rw [htrack.flying, bare, hs]
    rfl
  · intro past process id token rest he
    obtain ⟨hl, hn, -⟩ := htrack.orderly.fits he
    exact ⟨hl, hn⟩
  · intro past process rest he
    exact htrack.orderly.fits he

end TraceView.Proofs.Run
