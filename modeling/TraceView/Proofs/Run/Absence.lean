import TraceView.Proofs.Run.Exclusive
import TraceView.Proofs.Run.Isolation

/-!
# Documents that are not open

A turn does nothing about a document that is not open, unless it is asked to. Results of its runs are
stale, nothing wakes or prompts it, and nothing is started for it. All that is still told of it is
how an install ended that it had asked for.
-/
namespace TraceView.Proofs.Run

open TraceView.Run

variable {s s' : Scheduler} {t : Turn} {d : DocumentId} {l : List Act} {a : Act}

theorem bare_eq_none : bare s d = none ↔ s.slot? d = none := by
  rw [bare, Option.map_eq_none_iff]

/-- No act of the turn is about the document, and it is not open afterwards. -/
theorem Plays.absent (hf : Formed s) (h : Plays s t l (t.apply s)) (hs : s.slot? d = none)
    (ha : t.move.asker? ≠ some d) : about d l = [] ∧ (t.apply s).slot? d = none := by
  have hx := bare_eq_none.mpr hs
  have hfares := h.fares hf d
  rw [hx] at hfares
  cases hfares with
  | edited hm hd => exact absurd (by rw [hm, Move.asker?, hd]) ha
  | attempted hw =>
    cases hw with
    | requested hm ht hd => exact absurd (by rw [hm, Move.asker?, hd]) ha
    | reissued hm hx | fired hm hx | woken hm hv hx => cases hx
  | accepted hm hl hx => cases hx
  | installing hm | closed hm => exact absurd (by rw [hm, Move.asker?]) ha
  | aside hq hl hz => exact ⟨hl, bare_eq_none.mp hz⟩

theorem not_subject (h : about d l = []) (ha : a ∈ l) : a.subject ≠ some d := by
  intro hsub
  have hmem : a ∈ about d l := mem_about.mpr ⟨ha, hsub⟩
  rw [h] at hmem
  cases hmem

theorem Plays.not_prompted (h : Plays s t l (t.apply s)) (hs : s.slot? d = none)
    (hl : about d l = []) {p : Path} {message : String} : .prompt d p message ∉ l := by
  intro ha
  obtain ⟨u, u', pre, post, rfl, hpre, hdoes, -⟩ := h.acts.split ha
  have hu : u.slot? d = none := by
    rw [← bare_eq_none, bare_acts hpre fun b hb => not_subject hl (List.mem_append_left _ hb)]
    exact bare_eq_none.mpr hs
  cases hdoes with
  | prompt hslot =>
    rw [hu] at hslot
    cases hslot

/-- Only the end of an install is told of a document that is not open. -/
theorem Plays.told_absent (hf : Formed s) (h : Plays s t l (t.apply s)) (hs : s.slot? d = none)
    (ha : t.move.asker? ≠ some d) {n : Notice} (hn : n ∈ t.told s) (hd : addressee n = d) :
    ∃ p outcome, t.move = .complete ⟨.install p d, outcome⟩ ∧
      n = .installFinished d p outcome.success outcome.combined := by
  obtain ⟨hl, -⟩ := h.absent hf hs ha
  rw [h.told] at hn
  obtain ⟨a, hal, hna⟩ := List.mem_flatMap.mp hn
  rcases addressee_cases hna with hsub | ⟨b, p, message, rfl, rfl⟩ | ⟨p, id, success, output, rfl⟩
  · exact absurd (hd ▸ hsub) (not_subject hl hal)
  · subst hd
    exact absurd hal (h.not_prompted hs hl)
  · cases List.mem_singleton.mp hna
    subst hd
    cases h.reports with
    | unreported hm hno => exact absurd rfl (hno _ hal p _ success output)
    | @reported _ _ outcome mid rest hm heq first acts hrest =>
      subst heq
      rcases List.mem_cons.mp hal with hfirst | hlater
      · cases hfirst
        exact ⟨_, outcome, hm, rfl⟩
      · exact absurd rfl (hrest _ hlater p _ success output)

theorem not_logged_of_asked {e : Event} {tag : LaunchTag} (h : asked? e = some tag) :
    isLogged e = false := by
  cases e with
  | logged => cases h
  | _ => rfl

/-- Nothing is started for a document that is not open, nor is it tried to. -/
theorem Plays.launches_absent (hf : Formed s) (h : Plays s t l (t.apply s)) (hs : s.slot? d = none)
    (ha : t.move.asker? ≠ some d) {e : Event} {tag : LaunchTag} (he : e ∈ t.did s)
    (hask : asked? e = some tag) : servedBy tag ≠ some d := by
  obtain ⟨hl, -⟩ := h.absent hf hs ha
  have heffect : e ∈ l.flatMap Act.effects := by
    rw [← h.did]
    exact mem_effects.mpr ⟨he, not_logged_of_asked hask⟩
  obtain ⟨a, hal, hea⟩ := List.mem_flatMap.mp heffect
  obtain ⟨u, u', -, -, -, -, hdoes, -⟩ := h.acts.split hal
  cases hdoes.concerns hea with
  | killed => cases hask
  | removed => cases hask
  | copied hd hch => cases e <;> cases hask <;> cases hch
  | asked hask' hserved =>
    cases hask.symm.trans hask'
    rw [hserved]
    exact not_subject hl hal

theorem launched_acts (h : Acts s l s') :
    s'.events.filterMap launchedTag? =
      s.events.filterMap launchedTag? ++ l.filterMap Act.launched? := by
  induction h with
  | nil => rw [List.filterMap_nil, List.append_nil]
  | @cons s mid s' a l first rest ih =>
    rw [ih, launched_does first, List.append_assoc]
    cases ha : a.launched? with
    | none => rw [List.filterMap_cons_none ha, Option.toList_none, List.nil_append]
    | some tag => rw [List.filterMap_cons_some ha, Option.toList_some, List.singleton_append]

/-- Only a request of a document starts an install for it. -/
theorem Course.install_move (h : Course s t d l) {p : Path}
    (hp : .install p d ∈ l.filterMap Act.launched?) : t.move = .install d := by
  have hlaunch : ∀ b e, Begins d b → Ends d e →
      LaunchTag.install p d ∉ [b, e].filterMap Act.launched? := by
    intro b e hb he
    cases hb <;> cases he <;> simp [Act.launched?, List.filterMap_cons]
  have hquiet : ∀ a b e, a.launched? = none → Begins d b → Ends d e →
      LaunchTag.install p d ∉ [a, b, e].filterMap Act.launched? := by
    intro a b e ha hb he
    rw [List.filterMap_cons_none ha]
    exact hlaunch b e hb he
  cases h with
  | installing hm => exact hm
  | requested hm ht hd hb he => exact absurd hp (hquiet _ _ _ rfl hb he)
  | reissued hm hb he => exact absurd hp (hquiet _ _ _ rfl hb he)
  | fired hm hx ha hb he => exact absurd hp (hquiet _ _ _ rfl hb he)
  | woken hm hv hs hg ha hb he => exact absurd hp (hlaunch _ _ hb he)
  | edited | accepted | closed | aside => simp [Act.launched?, List.filterMap_cons] at hp

theorem Plays.launched (h : Plays s t l (t.apply s)) :
    (t.did s).filterMap launchedTag? = l.filterMap Act.launched? := by
  have hall := launched_acts h.acts
  obtain ⟨es, he, -⟩ := events_acts h.acts
  rw [Turn.did, he, List.drop_left]
  rw [he, List.filterMap_append] at hall
  exact List.append_cancel_left hall

theorem Plays.install_move (hf : Formed s) (h : Plays s t l (t.apply s)) {p : Path}
    (hp : .install p d ∈ (t.did s).filterMap launchedTag?) : t.move = .install d := by
  rw [h.launched] at hp
  refine (h.course hf d).install_move (p := p) ?_
  obtain ⟨a, ha, htag⟩ := List.mem_filterMap.mp hp
  refine List.mem_filterMap.mpr ⟨a, mem_about.mpr ⟨ha, ?_⟩, htag⟩
  cases a <;> cases htag
  rfl

/-- A document that is closed is not open, and nothing is told of it. -/
theorem Plays.closes (hf : Formed s) (h : Plays s t l (t.apply s)) (hm : t.move = .close d) :
    (t.apply s).slot? d = none ∧ t.told s = [] := by
  constructor
  · cases h.fares hf d with
    | closed _ _ hz => exact bare_eq_none.mp hz
    | aside hq hl hz =>
      rw [← bare_eq_none, hz, bare_eq_none]
      exact hq.absent hm
    | attempted hw =>
      cases hw with
      | requested hm' | reissued hm' | fired hm' | woken hm' => cases hm.symm.trans hm'
    | edited hm' | accepted hm' | installing hm' => cases hm.symm.trans hm'
  · rw [h.told]
    generalize t.apply s = s' at h
    cases h with
    | closed => rfl
    | still => rfl
    | edited hm' | requested hm' | reissued hm' | fired hm' | accepted hm' | judged hm'
    | woken hm' | uninstalled hm' | installing hm' => cases hm.symm.trans hm'

end TraceView.Proofs.Run
