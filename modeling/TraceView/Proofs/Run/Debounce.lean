import TraceView.Proofs.Run.Local

/-!
# Edits in quick succession

A burst is a stretch of turns in which a document is edited again and again before its timer runs
out, and is otherwise left alone. The timer makes one run of the last text out of it, except where
a completion starts the document while the timer is pending: the timer is then not stopped.
-/
namespace TraceView.Proofs.Run

open TraceView.Run
open TraceView.Proofs.KeyOrder

/-- Turns that neither ask for a run of a document or an install nor close it. -/
structure Apart (t : Turn) (d : DocumentId) : Prop where
  unasked : ∀ snapshot trigger, t.move = .request snapshot trigger → snapshot.document ≠ d
  unissued : t.move ≠ .reissue d
  uninstalled : t.move ≠ .install d
  unclosed : t.move ≠ .close d

/-- A burst of edits of a document, with the time and the text of the last edit and the time of the
last turn. -/
inductive Burst (d : DocumentId) (delay : Nat) : List Turn → Nat → String → Nat → Prop where
  | first {t snapshot} (hm : t.move = .request snapshot .change) (hd : snapshot.document = d) :
      Burst d delay [t] t.now snapshot.text t.now
  | again {turns last text clock t snapshot} (hb : Burst d delay turns last text clock)
      (hm : t.move = .request snapshot .change) (hd : snapshot.document = d)
      (hc : clock ≤ t.now) (hgap : t.now < last + delay) :
      Burst d delay (turns ++ [t]) t.now snapshot.text t.now
  | other {turns last text clock t} (hb : Burst d delay turns last text clock)
      (hc : clock ≤ t.now) (ha : Apart t d) : Burst d delay (turns ++ [t]) last text t.now

/-- What is started for a trace of a document. -/
def traced (d : DocumentId) : Event → Option LaunchSpec
  | .launched _ spec (.trace id _) => if id = d then some spec else none
  | _ => none

/-- The trace processes a turn starts for a document. -/
def Turn.starts (t : Turn) (s : Scheduler) (d : DocumentId) : List LaunchSpec :=
  (t.did s).filterMap (traced d)

def startsIn (s : Scheduler) (d : DocumentId) : List Turn → List LaunchSpec
  | [] => []
  | t :: turns => t.starts s d ++ startsIn (t.apply s) d turns

/-- A burst starts one process at most, not before the deadline of the last edit and with its text,
and no timer is left when it is started. -/
structure Coalesces (s : Scheduler) (turns : List Turn) (d : DocumentId) (last : Nat)
    (text : String) : Prop where
  once : (startsIn s d turns).length ≤ 1
  settled : ∀ before t after, turns = before ++ t :: after →
    ∀ spec ∈ t.starts (play s before) d,
      last + s.options.debounce ≤ t.now ∧ spec.stdin = some text ∧
        ∀ slot, (play s (before ++ [t])).slot? d = some slot → slot.due = none

/-- A completion starts a document whose timer is pending. -/
structure Premature (s : Scheduler) (t : Turn) (d : DocumentId) : Prop where
  pending : ∃ slot due, s.slot? d = some slot ∧ slot.due = some due
  completed : ∃ completion, t.move = .complete completion
  started : t.starts s d ≠ []

variable {s s' : Scheduler} {t : Turn} {d : DocumentId} {l : List Act}

def startSpec? : Act → Option LaunchSpec
  | .start _ _ _ spec _ => some spec
  | _ => none

theorem traced_prepare (env : Surroundings) (options : Options) (snapshot : Snapshot)
    (scratch : Option Path) (asked : Nat) (d : DocumentId) :
    (prepare env options snapshot scratch asked).events.filterMap (traced d) = [] :=
  filterMap_prepare (by rintro _ ⟨⟩ <;> rfl) ..

theorem specs_of_ne {a : Act} (d : DocumentId) (ha : startSpec? a = none) :
    (about d [a]).filterMap startSpec? = [] := by
  rw [about_cons]
  split
  · exact List.filterMap_cons_none ha
  · rfl

theorem traced_does {a : Act} (h : Does s a s') (d : DocumentId) :
    a.effects.filterMap (traced d) = (about d [a]).filterMap startSpec? := by
  cases h with
  | @start env p id slot snapshot spec es hs ha hr hv hp =>
    subst hp
    rw [Act.effects, List.filterMap_append, traced_prepare, List.nil_append]
    by_cases hd : id = d
    · subst hd
      simp [about_cons, Act.subject, traced, startSpec?]
    · simp [about_cons, Act.subject, traced, hd]
  | miscopy hs ha hr hv hp =>
    subst hp
    rw [specs_of_ne d rfl]
    exact traced_prepare ..
  | refuse hs ha hr hv hp =>
    subst hp
    rw [specs_of_ne d rfl, Act.effects, List.filterMap_append, traced_prepare]
    rfl
  | @close id slot =>
    rw [specs_of_ne d rfl]
    cases slot.active.bind (·.process) <;> cases slot.scratch <;> rfl
  | _ =>
    rw [specs_of_ne d rfl]
    rfl

theorem traced_acts (h : Acts s l s') (d : DocumentId) :
    (l.flatMap Act.effects).filterMap (traced d) = (about d l).filterMap startSpec? := by
  refine filterMap_about fun a ha => ?_
  obtain ⟨u, u', pre, post, -, -, hdoes, -⟩ := h.split ha
  exact traced_does hdoes d

theorem Plays.starts (h : Plays s t l (t.apply s)) (d : DocumentId) :
    t.starts s d = (about d l).filterMap startSpec? := by
  rw [Turn.starts, ← filterMap_effects fun _ => rfl, h.did, traced_acts h.acts]

theorem startsIn_append (s : Scheduler) (d : DocumentId) (turns more : List Turn) :
    startsIn s d (turns ++ more) = startsIn s d turns ++ startsIn (play s turns) d more := by
  induction turns generalizing s with
  | nil => rfl
  | cons t turns ih => simp only [List.cons_append, startsIn, ih, List.append_assoc, play_cons]

theorem starts_subset {before : List Turn} (after : List Turn) :
    ∀ spec ∈ t.starts (play s before) d, spec ∈ startsIn s d (before ++ t :: after) := by
  intro spec hm
  rw [startsIn_append, startsIn]
  exact List.mem_append_right _ (List.mem_append_left _ hm)

/-- What a turn may do to a document that is left alone. -/
inductive Meanwhile (s : Scheduler) (t : Turn) (d : DocumentId) : Prop where
  | passed (hs : t.starts s d = [])
      (hx : ∀ slot, bare s d = some slot → ∃ slot', bare (t.apply s) d = some slot' ∧
        slot'.request = slot.request ∧ slot'.due = slot.due ∧ slot'.gatedOn = slot.gatedOn)
  | fired {slot slot' due e} (hm : t.move = .tick) (hx : bare s d = some slot)
      (hd : slot.due = some due) (hn : due ≤ t.now) (hy : bare (t.apply s) d = some slot')
      (hr : Ran s.interpreter d { slot with due := none } e slot')
      (hs : t.starts s d = (startSpec? e).toList)
  | woken {slot slot' e completion} (hm : t.move = .complete completion)
      (hx : bare s d = some slot) (hg : slot.gatedOn ≠ none)
      (hy : bare (t.apply s) d = some slot') (hr : Ran s.interpreter d slot e slot')
      (hs : t.starts s d = (startSpec? e).toList)

theorem meanwhile (hf : Formed s) (ha : Apart t d) : Meanwhile s t d := by
  obtain ⟨l, hl⟩ := turn_unfolds hf t
  have hstarts := hl.starts d
  have hspecs : ∀ b e, Begins d b → ([b, e]).filterMap startSpec? = (startSpec? e).toList := by
    intro b e hb
    cases hb <;> cases e <;> rfl
  cases hl.fares hf d with
  | edited hm hd => exact absurd hd (ha.unasked _ _ hm)
  | installing hm => exact absurd hm ha.uninstalled
  | closed hm => exact absurd hm ha.unclosed
  | aside _ hlist hz =>
    rw [hlist] at hstarts
    exact .passed hstarts fun slot hs => ⟨slot, hz.trans hs, rfl, rfl, rfl⟩
  | accepted hm hlist hx ht hz =>
    rw [hlist] at hstarts
    refine .passed hstarts fun slot hs => ⟨_, hz, ?_⟩
    cases hx.symm.trans hs
    exact ⟨rfl, rfl, rfl⟩
  | @attempted _ slot' pre b e hw hattempted hb hlist hz hran =>
    rw [hlist, List.filterMap_append, hspecs b e hb] at hstarts
    cases hw with
    | requested hm ht hd => exact absurd hd (ha.unasked _ _ hm)
    | reissued hm => exact absurd hm ha.unissued
    | fired hm hx hdue hn => exact .fired hm hx hdue hn hz hran hstarts
    | woken hm hv hx hg =>
      refine .woken hm hx ?_ hz hran hstarts
      intro hnone
      simp [Slot.isGatedOn, hnone] at hg

/-- How far a burst has come: the timer is pending, it has run out, or it has made its run. -/
inductive Stage (delay last : Nat) (text : String) (clock : Nat) (x : Option Slot) :
    List LaunchSpec → Prop where
  | pending {slot} (hx : x = some slot) (hd : slot.due = some (last + delay))
      (hr : slot.request.map (·.text) = some text) : Stage delay last text clock x []
  | expired {slot} (hx : x = some slot) (hd : slot.due = none)
      (hr : slot.request.map (·.text) = some text) (hc : last + delay ≤ clock) :
      Stage delay last text clock x []
  | ran {slot spec} (hx : x = some slot) (hd : slot.due = none) (hg : slot.gatedOn = none)
      (hc : last + delay ≤ clock) (hi : spec.stdin = some text) :
      Stage delay last text clock x [spec]

variable {last clock : Nat} {text : String}

theorem Stage.length_le {delay : Nat} {x : Option Slot} {specs : List LaunchSpec}
    (h : Stage delay last text clock x specs) : specs.length ≤ 1 := by
  cases h <;> simp

/-- What a start leaves, and what it was started with. -/
theorem Ran.specs {interpreter : Path} {slot slot' : Slot} {e : Act}
    (h : Ran interpreter d slot e slot') (hr : slot.request.map (·.text) = some text) :
    startSpec? e = none ∨
      ∃ spec, startSpec? e = some spec ∧ spec.stdin = some text ∧ slot'.gatedOn = none := by
  cases h with
  | @started snapshot token process spec copies ended scratch hreq hi =>
    right
    rw [hreq] at hr
    exact ⟨spec, rfl, hi.trans hr, rfl⟩
  | failed | parked => exact .inl rfl

theorem due_of_bare {slot slot' : Slot} (hy : bare s d = some slot') (hs : s.slot? d = some slot) :
    slot.due = slot'.due := by
  rw [bare_some hs] at hy
  cases hy
  rfl

theorem Stage.later {delay later : Nat} {x y : Option Slot} {specs : List LaunchSpec}
    (h : Stage delay last text clock x specs) (hc : clock ≤ later)
    (hy : ∀ slot, x = some slot → ∃ slot', y = some slot' ∧ slot'.request = slot.request ∧
      slot'.due = slot.due ∧ slot'.gatedOn = slot.gatedOn) :
    Stage delay last text later y specs := by
  cases h with
  | pending hx hd hr =>
    obtain ⟨slot', hs', hr', hd', -⟩ := hy _ hx
    exact .pending hs' (hd'.trans hd) (hr' ▸ hr)
  | expired hx hd hr hl =>
    obtain ⟨slot', hs', hr', hd', -⟩ := hy _ hx
    exact .expired hs' (hd'.trans hd) (hr' ▸ hr) (Nat.le_trans hl hc)
  | ran hx hd hg hl hi =>
    obtain ⟨slot', hs', -, hd', hg'⟩ := hy _ hx
    exact .ran hs' (hd'.trans hd) (hg'.trans hg) (Nat.le_trans hl hc) hi

/-- An attempt without a timer ends the wait or leaves it as it was. -/
theorem Stage.attempt {delay : Nat} {slot slot' : Slot} {e : Act} {interpreter : Path}
    (hran : Ran interpreter d slot e slot') (hd : slot.due = none)
    (hr : slot.request.map (·.text) = some text) (hc : last + delay ≤ clock) :
    Stage delay last text clock (some slot') (startSpec? e).toList := by
  rcases hran.specs hr with he | ⟨spec, he, hi, hg⟩
  · rw [he]
    exact .expired rfl (hran.due.trans hd) (hran.request ▸ hr) hc
  · rw [he]
    exact .ran rfl (hran.due.trans hd) hg hc hi

/-- A turn that leaves the document alone takes the burst on, unless it starts the document while
the timer is pending. -/
theorem Stage.meanwhile {specs : List LaunchSpec} (hf : Formed s) (ha : Apart t d)
    (hc : clock ≤ t.now) (hp : ¬ Premature s t d)
    (h : Stage s.options.debounce last text clock (bare s d) specs) :
    Stage s.options.debounce last text t.now (bare (t.apply s) d) (specs ++ t.starts s d) ∧
      (t.starts s d ≠ [] → specs = [] ∧ last + s.options.debounce ≤ t.now ∧
        ∀ slot, (t.apply s).slot? d = some slot → slot.due = none) := by
  cases Run.meanwhile hf ha with
  | passed hs hx =>
    rw [hs, List.append_nil]
    exact ⟨h.later hc hx, fun hne => absurd rfl hne⟩
  | @fired slot slot' due e hm hx hd hn hy hr hs =>
    cases h with
    | pending hx' hd' hr' =>
      cases hx.symm.trans hx'
      cases hd.symm.trans hd'
      rw [hs, hy]
      refine ⟨Stage.attempt hr rfl hr' hn, fun _ => ⟨rfl, hn, fun slot'' hs'' => ?_⟩⟩
      rw [due_of_bare hy hs'', hr.due]
    | expired hx' hd' | ran hx' hd' =>
      cases hx.symm.trans hx'
      rw [hd'] at hd
      cases hd
  | @woken slot slot' e completion hm hx hg hy hr hs =>
    cases h with
    | pending hx' hd' hr' =>
      cases hx.symm.trans hx'
      have hnone : t.starts s d = [] := by
        by_cases hne : t.starts s d = []
        · exact hne
        · obtain ⟨slot₀, hs₀, rfl⟩ := Option.map_eq_some_iff.mp hx
          exact absurd ⟨⟨slot₀, _, hs₀, hd'⟩, ⟨completion, hm⟩, hne⟩ hp
      rw [hnone]
      exact ⟨.pending hy (hr.due.trans hd') (hr.request ▸ hr'), fun hne => absurd rfl hne⟩
    | expired hx' hd' hr' hl =>
      cases hx.symm.trans hx'
      rw [hs, hy]
      refine ⟨Stage.attempt hr hd' hr' (Nat.le_trans hl hc),
        fun _ => ⟨rfl, Nat.le_trans hl hc, ?_⟩⟩
      intro slot'' hs''
      rw [due_of_bare hy hs'', hr.due, hd']
    | ran hx' hd' hg' =>
      cases hx.symm.trans hx'
      exact absurd hg' hg

theorem Stage.texts {delay : Nat} {x : Option Slot} {specs : List LaunchSpec}
    (h : Stage delay last text clock x specs) : ∀ spec ∈ specs, spec.stdin = some text := by
  cases h with
  | pending | expired => simp
  | ran hx hd hg hc hi =>
    intro spec hm
    cases List.mem_singleton.mp hm
    exact hi

/-- An edit starts nothing and sets the timer. -/
theorem edit_turn {snapshot : Snapshot} (hm : t.move = .request snapshot .change)
    (hd : snapshot.document = d) :
    t.starts s d = [] ∧ ∃ slot, bare (t.apply s) d = some slot ∧
      slot.due = some (t.now + s.options.debounce) ∧ slot.request = some snapshot := by
  subst hd
  have he : ∃ line, t.apply s = extend (put s snapshot.document
      { (s.slot? snapshot.document).getD .empty with
        request := some snapshot, due := some (t.now + s.options.debounce) })
          [.logged line] := by
    simp only [Turn.apply, hm, Scheduler.requestRun]
    exact ⟨_, rfl⟩
  obtain ⟨line, he⟩ := he
  constructor
  · have hdid : t.did s = [.logged line] := by
      rw [Turn.did, he]
      exact List.drop_left
    rw [Turn.starts, hdid]
    rfl
  · rw [he]
    exact ⟨_, bare_put s _ _ rfl, rfl, rfl⟩

theorem Coalesces.of_none {turns : List Turn} (h : startsIn s d turns = []) :
    Coalesces s turns d last text := by
  refine ⟨by simp [h], ?_⟩
  rintro before t after rfl spec hm
  have hin := starts_subset after spec hm
  rw [h] at hin
  cases hin

/-- A burst in which no completion starts the document too early comes to one run at most. -/
theorem Burst.stage (hf : Formed s) {turns : List Turn}
    (hb : Burst d s.options.debounce turns last text clock)
    (hp : ∀ before t after, turns = before ++ t :: after → ¬ Premature (play s before) t d) :
    Coalesces s turns d last text ∧
      Stage s.options.debounce last text clock (bare (play s turns) d) (startsIn s d turns) := by
  induction hb with
  | @first t snapshot hm hd =>
    obtain ⟨hs, slot, hy, hdue, hr⟩ := edit_turn (s := s) hm hd
    have hin : startsIn s d [t] = [] := by
      rw [startsIn, hs]
      rfl
    rw [hin]
    exact ⟨.of_none hin, .pending hy hdue (by rw [hr]; rfl)⟩
  | @again turns last text clock t snapshot hb hm hd hc hgap ih =>
    obtain ⟨-, hstage⟩ := ih fun before u after he =>
      hp before u (after ++ [t]) (by simp [he])
    obtain ⟨hs, slot, hy, hdue, hr⟩ := edit_turn (s := play s turns) hm hd
    rw [options_play hf] at hdue
    have hnone : startsIn s d turns = [] := by
      generalize startsIn s d turns = specs at hstage
      cases hstage with
      | pending => rfl
      | expired hx hd' hr' hl => rfl
      | ran hx hd' hg hl => omega
    have hin : startsIn s d (turns ++ [t]) = [] := by
      rw [startsIn_append, hnone, startsIn, hs]
      rfl
    rw [hin, play_append]
    exact ⟨.of_none hin, .pending hy hdue (by rw [hr]; rfl)⟩
  | @other turns last text clock t hb hc ha ih =>
    obtain ⟨hco, hstage⟩ := ih fun before u after he =>
      hp before u (after ++ [t]) (by simp [he])
    have hf' := formed_play hf turns
    rw [← options_play hf turns] at hstage
    obtain ⟨hnext, hfresh⟩ := hstage.meanwhile hf' ha hc (hp turns t [] rfl)
    rw [options_play hf] at hnext hfresh
    have hin : startsIn s d (turns ++ [t]) = startsIn s d turns ++ t.starts (play s turns) d := by
      rw [startsIn_append, startsIn, startsIn, List.append_nil]
    rw [hin, play_append]
    refine ⟨⟨?_, ?_⟩, hnext⟩
    · rw [hin]
      exact hnext.length_le
    · intro before u after he spec hm
      rcases split_snoc he with ⟨rfl, rfl, rfl⟩ | ⟨rest, rfl, rfl⟩
      · obtain ⟨-, hle, hdue⟩ := hfresh (List.ne_nil_of_mem hm)
        refine ⟨hle, hnext.texts spec (List.mem_append_right _ hm), ?_⟩
        rw [play_append]
        exact hdue
      · exact hco.settled before u rest rfl spec hm

/-- A start that comes too early leaves the timer pending. -/
theorem Premature.pending_after (hf : Formed s) (h : Premature s t d) :
    ∃ slot due, (t.apply s).slot? d = some slot ∧ slot.due = some due := by
  obtain ⟨slot, due, hs, hd⟩ := h.pending
  obtain ⟨completion, hm⟩ := h.completed
  have ha : Apart t d := by
    constructor <;> simp [hm]
  cases Run.meanwhile hf ha with
  | passed hno => exact absurd hno h.started
  | fired hm' =>
    rw [hm] at hm'
    cases hm'
  | woken hm' hx hg hy hr =>
    rw [bare_some hs] at hx
    cases hx
    obtain ⟨slot', hs', he⟩ := Option.map_eq_some_iff.mp hy
    exact ⟨slot', due, hs', (due_of_bare hy hs').trans (hr.due.trans hd)⟩

/-- A burst is made into one run of its last text, exactly if no completion starts the document
while its timer is pending. -/
theorem coalesces_iff (availability : Availability) (options : Options) (past turns : List Turn)
    (d : DocumentId) (last : Nat) (text : String) (clock : Nat)
    (hb : Burst d options.debounce turns last text clock) :
    Coalesces (play (.new availability options) past) turns d last text ↔
      ∀ before t after, turns = before ++ t :: after →
        ¬ Premature (play (.new availability options) (past ++ before)) t d := by
  have hf := formed_play (formed_new availability options) past
  have ho := options_play (formed_new availability options) past
  generalize hs : play (.new availability options) past = s at hf ho
  have hdelay : s.options.debounce = options.debounce := by
    rw [ho]
    rfl
  simp only [play_append, hs]
  constructor
  · rintro hco before t after rfl hp
    obtain ⟨slot, due, hslot, hdue⟩ := hp.pending_after (formed_play hf before)
    obtain ⟨spec, hm⟩ := List.exists_mem_of_ne_nil _ hp.started
    obtain ⟨-, -, hnone⟩ := hco.settled before t after rfl spec hm
    have hlast : play s (before ++ [t]) = t.apply (play s before) := play_append ..
    rw [hlast] at hnone
    rw [hnone slot hslot] at hdue
    cases hdue
  · intro hp
    rw [← hdelay] at hb
    exact (hb.stage hf hp).1

/-- A save, which has the tracer probed for. -/
def savedOnce : List Turn := [⟨obliging, 0, .request ⟨"d", "one", none⟩ .save⟩]

/-- Two edits less than the delay apart; the probe succeeds in between. -/
def editedTwice : List Turn :=
  [⟨obliging, 10, .request ⟨"d", "two", none⟩ .change⟩,
    ⟨obliging, 100, .complete ⟨.probe "python", .exited (some 0) "" ""⟩⟩,
    ⟨obliging, 200, .request ⟨"d", "three", none⟩ .change⟩,
    ⟨obliging, 500, .tick⟩]

theorem editedTwice_burst : Burst "d" 300 editedTwice 200 "three" 500 := by
  have hfirst : Burst "d" 300 [editedTwice[0]] 10 "two" 10 :=
    @Burst.first "d" 300 editedTwice[0] ⟨"d", "two", none⟩ rfl rfl
  have hprobed : Burst "d" 300 [editedTwice[0], editedTwice[1]] 10 "two" 100 :=
    .other (t := editedTwice[1]) hfirst (by decide) (by constructor <;> simp [editedTwice])
  have hagain : Burst "d" 300 [editedTwice[0], editedTwice[1], editedTwice[2]] 200 "three" 200 :=
    @Burst.again "d" 300 _ _ _ _ editedTwice[2] ⟨"d", "three", none⟩ hprobed rfl rfl (by decide)
      (by decide)
  exact .other (t := editedTwice[3]) hagain (by decide) (by constructor <;> simp [editedTwice])

/-- The probe starts the first text, and the timer, still pending, the second. -/
theorem burst_starts_twice : Burst "d" plainOptions.debounce editedTwice 200 "three" 500 ∧
    ¬ Coalesces (play (.new [] plainOptions) savedOnce) editedTwice "d" 200 "three" := by
  refine ⟨editedTwice_burst, fun h => ?_⟩
  have htwo : (startsIn (play (.new [] plainOptions) savedOnce) "d" editedTwice).length = 2 := by
    decide +kernel
  have hone := h.once
  omega

theorem coalesces_iff_editedTwice :
    Burst "d" plainOptions.debounce editedTwice 200 "three" 500 ∧
      (Coalesces (play (.new [] plainOptions) savedOnce) editedTwice "d" 200 "three" ↔
        ∀ before t after, editedTwice = before ++ t :: after →
          ¬ Premature (play (.new [] plainOptions) (savedOnce ++ before)) t "d") :=
  ⟨editedTwice_burst, coalesces_iff [] plainOptions savedOnce editedTwice "d" 200 "three" 500
    editedTwice_burst⟩

end TraceView.Proofs.Run
