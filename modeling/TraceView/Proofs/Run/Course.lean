import TraceView.Proofs.Run.Round

/-!
# Turns as one document sees them

Of the acts of a turn those about one document are few, and which they are is decided by the move.
The courses below are all there are; what a turn does to a document follows by cases.
-/
namespace TraceView.Proofs.Run

open TraceView.Run
open TraceView.Proofs.KeyOrder

variable {s s' : Scheduler} {t : Turn} {d : DocumentId} {l : List Act}

/-- Turns that pass a document by. -/
structure Aside (s : Scheduler) (t : Turn) (d : DocumentId) : Prop where
  unasked : ∀ snapshot trigger, t.move = .request snapshot trigger → snapshot.document ≠ d
  unattempted : (s.slot? d).isSome → d ∉ t.attempted s
  unclosed : (s.slot? d).isSome → t.move ≠ .close d
  unheard : ∀ slot token outcome, s.slot? d = some slot → slot.latest = some token →
    t.move ≠ .complete ⟨.trace d token, outcome⟩

/-- Closing passes a document by only if it is not open. -/
theorem Aside.absent (h : Aside s t d) (hm : t.move = .close d) : s.slot? d = none := by
  cases hs : s.slot? d with
  | none => rfl
  | some slot => exact absurd hm (h.unclosed (by rw [hs]; rfl))

/-- The acts of a turn that are about a document. -/
inductive Course (s : Scheduler) (t : Turn) (d : DocumentId) : List Act → Prop where
  | edited {snapshot} (hm : t.move = .request snapshot .change) (hd : snapshot.document = d) :
      Course s t d [.ask snapshot (some (t.now + s.options.debounce))]
  | requested {snapshot trigger b e} (hm : t.move = .request snapshot trigger)
      (ht : trigger ≠ .change) (hd : snapshot.document = d) (hb : Begins d b) (he : Ends d e) :
      Course s t d [.ask snapshot none, b, e]
  | reissued {b e} (hm : t.move = .reissue d) (hb : Begins d b) (he : Ends d e) :
      Course s t d [.calm d, b, e]
  | fired {b e} (hm : t.move = .tick) (hx : d ∈ s.expired t.now) (ha : d ∈ t.attempted s)
      (hb : Begins d b) (he : Ends d e) : Course s t d [.calm d, b, e]
  | woken {completion interpreter slot b e} (hm : t.move = .complete completion)
      (hv : vouched? completion = some interpreter) (hs : s.slot? d = some slot)
      (hg : slot.isGatedOn interpreter = true) (ha : d ∈ t.attempted s) (hb : Begins d b)
      (he : Ends d e) : Course s t d [b, e]
  | accepted {token outcome delivery} (hm : t.move = .complete ⟨.trace d token, outcome⟩)
      (hd : (delivery.kind, delivery.text) = classify outcome) :
      Course s t d [.accept d token delivery]
  | installing {a} (hm : t.move = .install d) (ha : Installs d a) : Course s t d [a]
  | closed {process scratch} (hm : t.move = .close d) :
      Course s t d [.close d process scratch]
  | aside (h : Aside s t d) : Course s t d []

theorem Installs.subject {a : Act} (h : Installs d a) : a.subject = some d := by
  cases h <;> rfl

theorem Vouches.subject {completion : Completion} {interpreter : Path} {a : Act}
    (h : Vouches completion interpreter a) : a.subject = none := by
  cases h <;> rfl

theorem gated_heard {completion : Completion} {interpreter : Path} {a : Act} (hf : Formed s)
    (ha : Vouches completion interpreter a) (h : Does s a (heard s completion))
    (hd : d ∈ (heard s completion).waiting interpreter) :
    ∃ slot, s.slot? d = some slot ∧ slot.isGatedOn interpreter = true := by
  obtain ⟨slot, hs, hg⟩ := (mem_waiting (hf.does h) interpreter d).mp hd
  refine gated_of_bare (bare_does h ?_).symm hs hg
  rw [ha.subject]
  exact Option.some_ne_none d ∘ Eq.symm

theorem Still.aside (h : Still s t) (d : DocumentId) : Aside s t d := by
  cases h with
  | @reissue id hm hs =>
    refine ⟨by simp [hm], fun hopen => ?_, by simp [hm], by simp [hm]⟩
    have hd : d ≠ id := by
      rintro rfl
      simp [hs] at hopen
    simpa [Turn.attempted, Turn.attempts, hm] using hd
  | @trace id token outcome hm hs =>
    refine ⟨by simp [hm], by simp [Turn.attempted, Turn.attempts, hm, vouched?], by simp [hm], ?_⟩
    intro slot token' outcome' hd hl hm'
    rw [hm] at hm'
    cases hm'
    exact hs slot hd hl
  | install hm hb =>
    exact ⟨by simp [hm], by simp [Turn.attempted, Turn.attempts, hm], by simp [hm], by simp [hm]⟩
  | @close id hm hs =>
    refine ⟨by simp [hm], by simp [Turn.attempted, Turn.attempts, hm], fun hopen hm' => ?_,
      by simp [hm]⟩
    rw [hm] at hm'
    cases hm'
    simp [hs] at hopen

theorem aside_request {snapshot : Snapshot} {trigger : Trigger}
    (hm : t.move = .request snapshot trigger) (hd : snapshot.document ≠ d) : Aside s t d := by
  refine ⟨fun snapshot' trigger' hm' => ?_, fun _ => ?_, by simp [hm], by simp [hm]⟩
  · cases hm.symm.trans hm'
    exact hd
  · cases trigger <;> simp [Turn.attempted, Turn.attempts, hm, Ne.symm hd]

/-- What a turn does about a document is one of the courses. -/
theorem Plays.course (hf : Formed s) (h : Plays s t l s') (d : DocumentId) :
    Course s t d (about d l) := by
  cases h with
  | @edited snapshot s' hm h =>
    by_cases hd : snapshot.document = d
    · rw [about_own (by simp [Act.subject, hd])]
      exact .edited hm hd
    · rw [about_other (by simp [Act.subject, hd])]
      exact .aside (aside_request hm hd)
  | @requested snapshot trigger mid l decision s' hm ht hds h hl =>
    obtain ⟨b, e, hb, he, habout⟩ := hl.about
    by_cases hd : snapshot.document = d
    · rw [about_own (by simp [Act.subject, hd]), habout, if_pos hd]
      subst hd
      exact .requested hm ht rfl hb he
    · rw [about_other (by simp [Act.subject, hd]), habout, if_neg hd]
      exact .aside (aside_request hm hd)
  | @reissued id mid l decision s' hm hds h hl =>
    obtain ⟨b, e, hb, he, habout⟩ := hl.about
    by_cases hd : id = d
    · rw [about_own (by simp [Act.subject, hd]), habout, if_pos hd]
      subst hd
      exact .reissued hm hb he
    · rw [about_other (by simp [Act.subject, hd]), habout, if_neg hd]
      exact .aside ⟨by simp [hm], by simp [Turn.attempted, Turn.attempts, hm, Ne.symm hd],
        by simp [hm], by simp [hm]⟩
  | fired hm hr =>
    by_cases hd : d ∈ s.expired t.now
    · obtain ⟨b, e, hb, he, habout⟩ := hr.about_mem (nodup_keys_filter hf.ordered _) hd
      have hattempted : t.attempted s = s.expired t.now := hr.documents
      rw [habout]
      exact .fired hm hd (hattempted ▸ hd) hb he
    · rw [hr.about_not_mem hd]
      refine .aside ⟨by simp [hm], fun _ => ?_, by simp [hm], by simp [hm]⟩
      rw [Turn.attempted, hr.documents]
      exact hd
  | @accepted id token outcome delivery s' hm hdelivery h =>
    by_cases hd : id = d
    · subst hd
      rw [about_own rfl]
      exact .accepted hm hdelivery
    · rw [about_other (by simp [Act.subject, hd])]
      refine .aside ⟨by simp [hm], by simp [Turn.attempted, Turn.attempts, hm, vouched?],
        by simp [hm], ?_⟩
      intro slot token' outcome' hs hl hm'
      rw [hm] at hm'
      cases hm'
      exact hd rfl
  | @judged interpreter outcome mid l s' hm ho h hl =>
    rw [about_other (by simp [Act.subject]), hl.about]
    exact .aside ⟨by simp [hm], by simp [Turn.attempted, Turn.attempts, hm, vouched?, ho],
      by simp [hm], by simp [hm]⟩
  | @woken completion interpreter a l s' hm hv ha h hr =>
    rw [about_other (by simp [ha.subject])]
    have hattempted : t.attempted s = (heard s completion).waiting interpreter := hr.documents
    by_cases hd : d ∈ (heard s completion).waiting interpreter
    · obtain ⟨b, e, hb, he, habout⟩ := hr.about_mem (nodup_waiting (hf.does h) interpreter) hd
      obtain ⟨slot, hs, hg⟩ := gated_heard hf ha h hd
      rw [habout]
      exact .woken hm hv hs hg (hattempted ▸ hd) hb he
    · rw [hr.about_not_mem hd]
      refine .aside ⟨by simp [hm], fun _ => hattempted ▸ hd, by simp [hm], ?_⟩
      intro slot token outcome hs hl hm'
      rw [hm] at hm'
      cases hm'
      cases hv
  | @uninstalled interpreter outcome id s' hm ho h =>
    rw [about_other (by simp [Act.subject])]
    exact .aside ⟨by simp [hm], by simp [Turn.attempted, Turn.attempts, hm, vouched?, ho],
      by simp [hm], by simp [hm]⟩
  | @installing id a s' hm ha h =>
    by_cases hd : id = d
    · subst hd
      rw [about_own ha.subject]
      exact .installing hm ha
    · rw [about_other (by simp [ha.subject, hd])]
      exact .aside ⟨by simp [hm], by simp [Turn.attempted, Turn.attempts, hm], by simp [hm],
        by simp [hm]⟩
  | @closed id process scratch s' hm h =>
    by_cases hd : id = d
    · subst hd
      rw [about_own rfl]
      exact .closed hm
    · rw [about_other (by simp [Act.subject, hd])]
      exact .aside ⟨by simp [hm], by simp [Turn.attempted, Turn.attempts, hm],
        by simp [hm, hd], by simp [hm]⟩
  | @still es hq hes =>
    rw [about_other (by simp [Act.subject])]
    exact .aside (hq.aside d)

/-- No document is attempted twice in a turn. -/
theorem Plays.attempted_nodup (hf : Formed s) (h : Plays s t l s') : (t.attempted s).Nodup := by
  cases h with
  | @requested snapshot trigger mid l decision s' hm ht hds h hl =>
    cases trigger with
    | change => exact absurd rfl ht
    | save | explicit => simp [Turn.attempted, Turn.attempts, hm]
  | fired hm hr =>
    rw [Turn.attempted, hr.documents]
    exact nodup_keys_filter hf.ordered _
  | woken hm hv ha h hr =>
    rw [Turn.attempted, hr.documents]
    exact nodup_waiting (hf.does h) _
  | judged hm ho | uninstalled hm ho => simp [Turn.attempted, Turn.attempts, hm, vouched?, ho]
  | accepted hm => simp [Turn.attempted, Turn.attempts, hm, vouched?]
  | edited hm | reissued hm | installing hm | closed hm =>
    simp [Turn.attempted, Turn.attempts, hm]
  | still hq =>
    cases hq with
    | reissue hm | trace hm | install hm | close hm =>
      simp [Turn.attempted, Turn.attempts, hm, vouched?]

theorem mem_about {a : Act} : a ∈ about d l ↔ a ∈ l ∧ a.subject = some d := by
  rw [about, List.mem_filter, decide_eq_true_eq]

/-- A trace launch is the event of a start. -/
theorem start_of_launched {a : Act} (h : Does s a s') {process : Nat} {spec : LaunchSpec}
    {token : Token} (he : .launched process spec (.trace d token) ∈ a.effects) :
    ∃ copies, a = .start d token process spec copies := by
  have hcopies : ∀ {env options snapshot scratch asked},
      .launched process spec (.trace d token) ∉
        (prepare env options snapshot scratch asked).events := by
    intro env options snapshot scratch asked hm
    cases copying_prepare env options snapshot scratch asked _ hm
  cases h with
  | start hs ha hr hv hp =>
    subst hp
    rcases List.mem_append.mp he with he | he
    · exact absurd he hcopies
    · cases List.mem_singleton.mp he
      exact ⟨_, rfl⟩
  | miscopy hs ha hr hv hp =>
    subst hp
    exact absurd he hcopies
  | refuse hs ha hr hv hp =>
    subst hp
    rcases List.mem_append.mp he with he | he
    · exact absurd he hcopies
    · cases List.mem_singleton.mp he
  | @close id slot =>
    simp [Act.effects] at he
  | _ => simp [Act.effects] at he

theorem start_of_acts (h : Acts s l s') {process : Nat} {spec : LaunchSpec} {token : Token}
    (he : .launched process spec (.trace d token) ∈ l.flatMap Act.effects) :
    ∃ copies, .start d token process spec copies ∈ l := by
  induction h with
  | nil => cases he
  | cons first rest ih =>
    rw [List.flatMap_cons] at he
    rcases List.mem_append.mp he with he | he
    · obtain ⟨copies, rfl⟩ := start_of_launched first he
      exact ⟨copies, List.mem_cons_self⟩
    · obtain ⟨copies, hm⟩ := ih he
      exact ⟨copies, List.mem_cons_of_mem _ hm⟩

theorem Plays.launched_iff (h : Plays s t l (t.apply s)) (d : DocumentId) (process : Nat)
    (spec : LaunchSpec) (token : Token) :
    .launched process spec (.trace d token) ∈ t.did s ↔
      ∃ copies, .start d token process spec copies ∈ about d l := by
  have hmem : .launched process spec (.trace d token) ∈ t.did s ↔
      .launched process spec (.trace d token) ∈ l.flatMap Act.effects := by
    rw [← h.did, mem_effects]
    simp [isLogged]
  rw [hmem]
  constructor
  · intro he
    obtain ⟨copies, hm⟩ := start_of_acts h.acts he
    exact ⟨copies, mem_about.mpr ⟨hm, rfl⟩⟩
  · rintro ⟨copies, hm⟩
    refine List.mem_flatMap.mpr ⟨_, (mem_about.mp hm).1, ?_⟩
    simp [Act.effects]

/-- Only the completion of its run makes a document accept a result. -/
theorem Course.accept_move {token : Token} {delivery : Delivery} (h : Course s t d l)
    (ha : .accept d token delivery ∈ l) :
    ∃ outcome, t.move = .complete ⟨.trace d token, outcome⟩ := by
  have hlaunch : ∀ b e, Begins d b → Ends d e → Act.accept d token delivery ∉ [b, e] := by
    intro b e hb he hm
    cases hb <;> cases he <;> simp at hm
  cases h with
  | @accepted token' outcome delivery' hm hd =>
    simp only [List.mem_singleton, Act.accept.injEq] at ha
    obtain ⟨-, rfl, -⟩ := ha
    exact ⟨outcome, hm⟩
  | requested hm ht hd hb he =>
    exact absurd ((List.mem_cons.mp ha).resolve_left (by simp)) (hlaunch _ _ hb he)
  | reissued hm hb he =>
    exact absurd ((List.mem_cons.mp ha).resolve_left (by simp)) (hlaunch _ _ hb he)
  | fired hm hx hattempted hb he =>
    exact absurd ((List.mem_cons.mp ha).resolve_left (by simp)) (hlaunch _ _ hb he)
  | woken hm hv hs hg hattempted hb he => exact absurd ha (hlaunch _ _ hb he)
  | installing hm hi => cases hi <;> simp at ha
  | edited | closed => simp at ha
  | aside => cases ha

end TraceView.Proofs.Run
