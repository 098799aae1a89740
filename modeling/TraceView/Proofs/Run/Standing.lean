import TraceView.Proofs.Run.Authority

/-!
# What a turn decides about a document

A turn attempts a document once at most, and the decision tells all there is to tell: a launch is
told as a start, a failed one as a delivery, and a document that is made to wait is told nothing,
though the run it had is given up. Apart from attempts a run ends by a delivery or by closing.
-/
namespace TraceView.Proofs.Run

open TraceView.Run

/-- Is the document running? -/
def isRunning (s : Scheduler) (d : DocumentId) : Bool :=
  match s.phase d with
  | .running _ => true
  | _ => false

/-- What a notice says of whether a document runs. -/
def statusTold (d : DocumentId) : Notice → Option Bool
  | .runStarted id _ => if id = d then some true else none
  | .delivered id .. => if id = d then some false else none
  | .installPrompt .. | .installFinished .. => none

/-- The decisions of a turn about a document. -/
def Turn.decisions (t : Turn) (s : Scheduler) (d : DocumentId) : List Decision :=
  (t.attempts s).filterMap fun x => if x.1 = d then some x.2 else none

/-- What a decision is told as, if it is told at all. -/
def settled? : Decision → Option Bool
  | .launched _ => some true
  | .notRun .launchFailed => some false
  | _ => none

/-- The decision makes a document wait for the interpreter. -/
def isWaiting : Decision → Bool
  | .awaitingAvailability | .notRun .unavailable => true
  | _ => false

/-- How one step treats a document: by what is decided about it, whether it is closed, what is told
of its status, and whether it runs before and after. -/
inductive Standing (decisions : List Decision) (closes : Prop) (statuses : List Bool)
    (before after : Bool) : Prop where
  | settled {decision : Decision} {b : Bool} (hd : decisions = [decision])
      (hb : settled? decision = some b) (hc : ¬ closes) (ht : statuses = [b]) (hr : after = b)
  | shelved {decision : Decision} (hd : decisions = [decision]) (hw : isWaiting decision = true)
      (hc : ¬ closes) (ht : statuses = []) (hr : after = false)
  | delivered (hd : decisions = []) (hc : ¬ closes) (ht : statuses = [false]) (hb : before = true)
      (hr : after = false)
  | closed (hd : decisions = []) (hc : closes) (ht : statuses = []) (hr : after = false)
  | aside (hd : decisions = []) (hc : ¬ closes) (ht : statuses = []) (hr : after = before)

variable {s s' : Scheduler} {t : Turn} {d id : DocumentId} {l : List Act} {e : Act}
  {decision : Decision}

/-- The act by which an attempt ends, and the decision it comes to. -/
inductive Concludes (id : DocumentId) : Act → Decision → Prop where
  | started {token process spec copies} :
      Concludes id (.start id token process spec copies) (.launched token)
  | failed {token delivery tried} :
      Concludes id (.fail id token delivery tried) (.notRun .launchFailed)
  | shelved {decision : Decision} (hw : isWaiting decision = true) :
      Concludes id (.park id) decision

theorem not_ends_prompting {interpreter : Path} {ids : List DocumentId}
    (h : Prompting s interpreter ids l s') (he : e ∈ l) : ¬ Ends id e := by
  obtain ⟨k, message, rfl⟩ := h.only e he
  nofun

theorem Attempt.concludes (h : Attempt s id l decision s') (he : e ∈ l) (hends : Ends id e) :
    Concludes id e decision := by
  cases h with
  | started =>
    cases List.mem_singleton.mp he
    exact .started
  | failed =>
    cases List.mem_singleton.mp he
    exact .failed
  | unavailable hu hp hl =>
    rcases List.mem_cons.mp he with rfl | he
    · exact .shelved rfl
    · exact absurd hends (not_ends_prompting hl he)
  | probing =>
    cases List.mem_singleton.mp he
    exact .shelved rfl
  | probed =>
    rcases List.mem_cons.mp he with rfl | he
    · exact .shelved rfl
    · cases List.mem_singleton.mp he
      cases hends
  | unprobed hp h hl =>
    rcases List.mem_cons.mp he with rfl | he
    · exact .shelved rfl
    rcases List.mem_cons.mp he with rfl | he
    · cases hends
    · exact absurd hends (not_ends_prompting hl he)

theorem Launch.concludes (h : Launch s id l decision s') (he : e ∈ l) (hends : Ends id e) :
    Concludes id e decision := by
  cases h with
  | mk begins first rest =>
    rcases List.mem_cons.mp he with rfl | he
    · cases begins <;> cases hends
    · exact rest.concludes he hends

theorem Round.concludes {calm : Bool} {ids : List DocumentId}
    {ds : List (DocumentId × Decision)} (h : Round calm s ids l ds s') (hn : ids.Nodup)
    (hd : (d, decision) ∈ ds) (he : e ∈ l) (hends : Ends d e) : Concludes d e decision := by
  induction h with
  | nil => cases hd
  | @cons s mid mid' s' id pre l l' decision' ids ds hpre first launch rest ih =>
    obtain ⟨hnot, hn'⟩ := List.nodup_cons.mp hn
    have hmem : ∀ k, e ∈ k → e ∈ about d k := fun k hk => mem_about.mpr ⟨hk, hends.subject⟩
    have hcalm : e ∉ pre := by
      intro hmem
      cases calm <;> simp [hpre] at hmem
      subst hmem
      cases hends
    have he : e ∈ l ∨ e ∈ l' := by simpa [hcalm] using he
    by_cases hid : d = id
    · subst hid
      have hother : about d l' = [] := rest.about_not_mem hnot
      have hown : e ∈ l := he.resolve_right fun hl => by simpa [hother] using hmem l' hl
      rcases List.mem_cons.mp hd with hd | hd
      · cases hd
        exact launch.concludes hown hends
      · exact absurd (rest.documents ▸ List.mem_map_of_mem hd) hnot
    · obtain ⟨b, e', -, -, habout⟩ := launch.about
      have hother : about d l = [] := (habout d).trans (if_neg (Ne.symm hid))
      have hlater : e ∈ l' := he.resolve_left fun hl => by simpa [hother] using hmem l hl
      rcases List.mem_cons.mp hd with hd | hd
      · cases hd
        exact absurd rfl hid
      · exact ih hn' hd hlater

/-- The act by which the attempt for a document ends is what was decided about it. -/
theorem Plays.concludes (hf : Formed s) (h : Plays s t l s') (hd : (d, decision) ∈ t.attempts s)
    (he : e ∈ l) (hends : Ends d e) : Concludes d e decision := by
  have hone : ∀ {k : DocumentId} {decision' : Decision} {mid : Scheduler} {a : Act} {l'},
      t.attempts s = [(k, decision')] → ¬ Ends d a → Launch mid k l' decision' s' →
      e ∈ a :: l' → Concludes d e decision := by
    intro k decision' mid a l' ha hne hl he
    rw [ha] at hd
    cases List.mem_singleton.mp hd
    rcases List.mem_cons.mp he with rfl | he
    · exact absurd hends hne
    · exact hl.concludes he hends
  cases h with
  | requested hm ht ha h hl => exact hone ha (by rintro ⟨⟩) hl he
  | reissued hm ha h hl => exact hone ha (by rintro ⟨⟩) hl he
  | fired hm hr => exact hr.concludes (KeyOrder.nodup_keys_filter hf.ordered _) hd he hends
  | woken hm hv ha h hr =>
    rcases List.mem_cons.mp he with rfl | he
    · cases ha <;> cases hends
    · exact hr.concludes (nodup_waiting (hf.does h) _) hd he hends
  | edited hm => simp [Turn.attempts, hm] at hd
  | accepted hm => simp [Turn.attempts, hm, vouched?] at hd
  | judged hm ho | uninstalled hm ho => simp [Turn.attempts, hm, vouched?, ho] at hd
  | installing hm | closed hm => simp [Turn.attempts, hm] at hd
  | still =>
    cases List.mem_singleton.mp he
    cases hends

theorem decisions_of_not_mem (h : d ∉ t.attempted s) : t.decisions s d = [] := by
  refine List.filterMap_eq_nil_iff.mpr fun x hx => if_neg ?_
  rintro rfl
  exact h (List.mem_map_of_mem hx)

/-- Where no document is attempted twice, a decision is the only one about its document. -/
theorem decisions_of_mem (hn : (t.attempted s).Nodup) (h : (d, decision) ∈ t.attempts s) :
    t.decisions s d = [decision] := by
  rw [Turn.attempted] at hn
  rw [Turn.decisions]
  obtain ⟨front, rest, he⟩ := List.append_of_mem h
  rw [he] at hn ⊢
  rw [List.map_append, List.map_cons, List.nodup_append, List.nodup_cons] at hn
  obtain ⟨-, ⟨hrest, -⟩, hfront⟩ := hn
  have hnone : ∀ k : List (DocumentId × Decision), (∀ x ∈ k, x.1 ≠ d) →
      k.filterMap (fun x => if x.1 = d then some x.2 else none) = [] :=
    fun k hk => List.filterMap_eq_nil_iff.mpr fun x hx => if_neg (hk x hx)
  have hfront' := hnone front fun x hx hd =>
    hfront x.1 (List.mem_map_of_mem hx) x.1 (hd ▸ List.mem_cons_self) rfl
  have hrest' := hnone rest fun x hx hd => hrest (List.mem_map.mpr ⟨x, hx, hd⟩)
  simp [hfront', hrest']

/-- What is done about a document that is attempted is not nothing. -/
theorem Plays.attempted_about (hf : Formed s) (h : Plays s t l s') (hm : t.move ≠ .reissue d)
    (ha : d ∈ t.attempted s) : about d l ≠ [] := by
  have hround : ∀ {calm mid ids l' ds} {s' : Scheduler}, Round calm mid ids l' ds s' → ids.Nodup →
      d ∈ ids → about d l' ≠ [] := by
    intro calm mid ids l' ds s' hr hn hd
    obtain ⟨b, e, -, -, habout⟩ := hr.about_mem hn hd
    simp [habout]
  cases h with
  | @requested snapshot trigger mid l decision s' hm' ht hds h hl =>
    rw [Turn.attempted, hds] at ha
    have hd : d = snapshot.document := List.mem_singleton.mp ha
    rw [about_own (by rw [Act.subject, hd])]
    exact List.cons_ne_nil _ _
  | @reissued id mid l decision s' hm' hds h hl =>
    rw [Turn.attempted, hds] at ha
    have hd : d = id := List.mem_singleton.mp ha
    exact absurd (by rw [hm', hd]) hm
  | fired hm' hr =>
    rw [Turn.attempted, hr.documents] at ha
    exact hround hr (KeyOrder.nodup_keys_filter hf.ordered _) ha
  | woken hm' hv hvouch h hr =>
    rw [Turn.attempted, hr.documents] at ha
    rw [about_other (by simp [hvouch.subject])]
    exact hround hr (nodup_waiting (hf.does h) _) ha
  | edited hm' => simp [Turn.attempted, Turn.attempts, hm'] at ha
  | accepted hm' => simp [Turn.attempted, Turn.attempts, hm', vouched?] at ha
  | judged hm' ho | uninstalled hm' ho =>
    simp [Turn.attempted, Turn.attempts, hm', vouched?, ho] at ha
  | installing hm' | closed hm' => simp [Turn.attempted, Turn.attempts, hm'] at ha
  | still hq =>
    cases hq with
    | @reissue id hm' hs =>
      have hd : d = id := by simpa [Turn.attempted, Turn.attempts, hm'] using ha
      exact absurd (by rw [hm', hd]) hm
    | trace hm' | install hm' | close hm' =>
      simp [Turn.attempted, Turn.attempts, hm', vouched?] at ha

/-- What an act about a document says of whether the document runs. -/
def Act.status? : Act → Option Bool
  | .start .. => some true
  | .fail .. | .accept .. => some false
  | _ => none

theorem Plays.statuses (h : Plays s t l (t.apply s)) (d : DocumentId) :
    (t.told s).filterMap (statusTold d) = (about d l).filterMap Act.status? := by
  rw [h.told]
  refine filterMap_about fun a _ => ?_
  cases a with
  | start id | fail id | accept id =>
    by_cases hid : id = d
    · subst hid
      rw [about_own rfl]
      simp [Act.notices, statusTold, Act.status?]
    · rw [about_other (by simp [Act.subject, hid])]
      simp [Act.notices, statusTold, hid]
  | prompt | installed | probe | probeRefused | judge | idle =>
    rw [about_other (by simp [Act.subject])]
    rfl
  | ask | calm | release | kill | park | install | installRefused | close =>
    rw [about_cons]
    split <;> rfl

theorem isRunning_eq (s : Scheduler) (d : DocumentId) :
    isRunning s d = (activeOf s d).isSome := by
  cases hs : s.slot? d with
  | none => simp [isRunning, Scheduler.phase, activeOf, bare, hs]
  | some slot =>
    cases ha : slot.active with
    | some run => simp [isRunning, Scheduler.phase, activeOf, bare, core, hs, ha]
    | none =>
      cases hdue : slot.due <;> cases hg : slot.gatedOn <;>
        simp [isRunning, Scheduler.phase, activeOf, bare, core, hs, ha, hdue, hg]

/-- Every turn but a reissue treats a document in one of the ways. -/
theorem standing (hf : Formed s) (t : Turn) (d : DocumentId) (hm : t.move ≠ .reissue d) :
    Standing (t.decisions s d) (t.move = .close d) ((t.told s).filterMap (statusTold d))
      (isRunning s d) (isRunning (t.apply s) d) := by
  obtain ⟨l, hl⟩ := turn_unfolds hf t
  have hstatuses := hl.statuses d
  have hquiet : t.move ≠ .close d → d ∉ t.attempted s → (about d l).filterMap Act.status? = [] →
      activeOf (t.apply s) d = activeOf s d →
      Standing (t.decisions s d) (t.move = .close d) ((t.told s).filterMap (statusTold d))
        (isRunning s d) (isRunning (t.apply s) d) := by
    intro hc ha ht hr
    exact .aside (decisions_of_not_mem ha) hc (hstatuses.trans ht) (by simp only [isRunning_eq, hr])
  cases hl.fares hf d with
  | @attempted slot slot' pre b e hw ha hb hlist hz hran =>
    obtain ⟨⟨d', decision⟩, hd, rfl⟩ := List.mem_map.mp ha
    have hends : Ends d' e := by cases hran <;> constructor
    have hmem : e ∈ l := (mem_about.mp (hlist ▸ List.mem_append_right pre (by simp))).1
    have hdecisions := decisions_of_mem (hl.attempted_nodup hf) hd
    have hc : t.move ≠ .close d' := by
      cases hw with
      | requested hm' | reissued hm' | fired hm' | woken hm' => simp [hm']
    have hone : (about d' l).filterMap Act.status? = e.status?.toList := by
      rw [hlist]
      cases hw <;> cases hb <;> cases hran <;> rfl
    have hactive : activeOf (t.apply s) d' = slot'.active := by
      rw [activeOf, hz, Option.bind_some]
    cases hl.concludes hf hd hmem hends with
    | started | failed =>
      refine .settled hdecisions rfl hc (hstatuses.trans hone) ?_
      rw [isRunning_eq, hactive]
      cases hran
      rfl
    | shelved hw' =>
      refine .shelved hdecisions hw' hc (hstatuses.trans hone) ?_
      rw [isRunning_eq, hactive]
      cases hran
      rfl
  | @accepted slot token outcome delivery ended hm' hlist hx ht hz =>
    obtain ⟨slot', hs, rfl⟩ := Option.map_eq_some_iff.mp hx
    have ha : d ∉ t.attempted s := by simp [Turn.attempted, Turn.attempts, hm', vouched?]
    refine .delivered (decisions_of_not_mem ha) (by simp [hm']) (hstatuses.trans ?_) ?_ ?_
    · rw [hlist]
      rfl
    · have hlatest : slot'.latest = some token := ht
      rw [(hf.sound hs).latest] at hlatest
      obtain ⟨run, hrun, -⟩ := Option.map_eq_some_iff.mp hlatest
      rw [isRunning_eq, activeOf, bare_some hs]
      change slot'.active.isSome = true
      rw [hrun]
      rfl
    · rw [isRunning_eq, activeOf, hz]
      rfl
  | closed hm' hlist hz =>
    have ha : d ∉ t.attempted s := by simp [Turn.attempted, Turn.attempts, hm']
    refine .closed (decisions_of_not_mem ha) hm' (hstatuses.trans ?_) ?_
    · rw [hlist]
      rfl
    · rw [isRunning_eq, activeOf, hz]
      rfl
  | edited hm' hd hlist hz =>
    refine hquiet (by simp [hm']) (by simp [Turn.attempted, Turn.attempts, hm']) ?_ ?_
    · rw [hlist]
      rfl
    · rw [activeOf, hz, activeOf]
      cases bare s d <;> rfl
  | installing hm' ha hlist hz =>
    refine hquiet (by simp [hm']) (by simp [Turn.attempted, Turn.attempts, hm']) ?_ ?_
    · rw [hlist]
      cases ha <;> rfl
    · rw [activeOf, hz, activeOf]
      cases bare s d with
      | none => rfl
      | some slot =>
        rw [Option.map_some, gated]
        split <;> rfl
  | aside h hlist hz =>
    have ha : d ∉ t.attempted s := fun ha => hl.attempted_about hf hm ha hlist
    have hactive : activeOf (t.apply s) d = activeOf s d := by rw [activeOf, hz, activeOf]
    by_cases hc : t.move = .close d
    · refine .closed (decisions_of_not_mem ha) hc (hstatuses.trans (by rw [hlist]; rfl)) ?_
      rw [isRunning_eq, hactive, activeOf, bare, h.absent hc]
      rfl
    · exact hquiet hc ha (by rw [hlist]; rfl) hactive

end TraceView.Proofs.Run
