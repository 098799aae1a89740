import TraceView.Proofs.Run.Verdict

/-!
# One prompt for each verdict

The mark that a document has been prompted is taken off only where the document waits. That is
enough, because a document that has been prompted waits and the verdict is not that the tracer is
there. So prompts are counted by the mark from one verdict to the next.
-/
namespace TraceView.Proofs.Run

open TraceView.Run
open TraceView.Proofs.KeyOrder

def promptsTo (d : DocumentId) : Notice → Bool
  | .installPrompt id _ _ => id = d
  | _ => false

/-- How often a turn prompts a document. -/
def Turn.prompts (t : Turn) (s : Scheduler) (d : DocumentId) : Nat :=
  (t.told s).countP (promptsTo d)

/-- A probe of the interpreter completes, or an install of it succeeds. -/
def Renews (interpreter : Path) (move : Move) : Prop :=
  ∃ p, p.same interpreter = true ∧ Settles p move

/-- A document is opened. -/
def Opens (s : Scheduler) (t : Turn) (d : DocumentId) : Prop :=
  s.slot? d = none ∧ ((t.apply s).slot? d).isSome

/-- After one prompt another needs a new verdict or the document closed, and a document that is not
run because the tracer is missing has been prompted since it was opened and since the verdict. -/
structure PromptedOnce (start : Scheduler) (turns : List Turn) : Prop where
  once : ∀ past t later d, turns = past ++ t :: later → t.prompts (play start past) d ≤ 1
  apart : ∀ past t mid u later d, turns = past ++ t :: (mid ++ u :: later) →
    0 < t.prompts (play start past) d → 0 < u.prompts (play start (past ++ t :: mid)) d →
    (∃ v ∈ mid ++ [u], Renews start.interpreter v.move) ∨ ∃ v ∈ mid, v.move = .close d
  prompted : ∀ past t later d, turns = past ++ t :: later →
    (d, .notRun .unavailable) ∈ t.attempts (play start past) →
    ∃ before u mid, past ++ [t] = before ++ u :: mid ∧ 0 < u.prompts (play start before) d ∧
      ∀ a v b, mid = a ++ v :: b → ¬ Renews start.interpreter v.move ∧
        ¬ Opens (play start (before ++ u :: a)) v d

variable {s s' : Scheduler} {t : Turn} {d : DocumentId} {l : List Act} {a : Act}

/-- One if a document is marked to have been prompted. -/
def mark (s : Scheduler) (d : DocumentId) : Nat := (isPrompted s d).toNat

theorem mark_le (s : Scheduler) (d : DocumentId) : mark s d ≤ 1 := Bool.toNat_le _

theorem isPrompted_gated (s : Scheduler) (interpreter : Path) (id d : DocumentId) :
    isPrompted (s.update id (gated interpreter)) d = isPrompted s d := by
  have hgated : ∀ slot : Slot, (gated interpreter slot).prompted = slot.prompted := by
    intro slot
    rw [gated]
    split <;> rfl
  rw [isPrompted, slot?_update]
  split
  · rw [isPrompted]
    cases s.slot? d <;> simp [hgated]
  · rfl

/-- Where no verdict comes and nothing is closed, prompts are counted by the mark. -/
theorem mark_plain (h : Does s a s') (ha : isPlain a = true) (d : DocumentId) :
    a.notices.countP (promptsTo d) + mark s d = mark s' d := by
  have hsame : isPrompted s' d = isPrompted s d → a.notices.countP (promptsTo d) = 0 →
      a.notices.countP (promptsTo d) + mark s d = mark s' d := by
    intro hp hn
    rw [mark, mark, hp, hn, Nat.zero_add]
  cases h with
  | @ask snapshot due es =>
    refine hsame (isPrompted_put rfl ?_ d) rfl
    cases hs : s.slot? snapshot.document <;> simp [isPrompted, hs, Slot.empty]
  | calm hs | release hs | kill hs | park hs | start hs | miscopy hs | refuse hs | accept hs =>
    refine hsame (isPrompted_put rfl ?_ d) rfl
    exact (isPrompted_slot hs).symm
  | install | installRefused => exact hsame (isPrompted_gated s s.interpreter _ d) rfl
  | @prompt id slot p hs hp hg hu =>
    rw [mark, mark, isPrompted_prompt (.prompt hs hp hg hu)]
    by_cases hd : id = d
    · subst hd
      simp [isPrompted_slot hs, hp, Act.notices, promptsTo]
    · simp [hd, Act.notices, promptsTo]
  | @installed p id success output es =>
    cases success with
    | false => exact hsame rfl rfl
    | true => cases ha
  | judge | close => cases ha
  | _ => exact hsame rfl rfl

theorem mark_plains (h : Acts s l s') (hl : ∀ a ∈ l, isPlain a = true) (d : DocumentId) :
    (l.flatMap Act.notices).countP (promptsTo d) + mark s d = mark s' d := by
  induction h with
  | nil => exact Nat.zero_add _
  | cons first rest ih =>
    have hfirst := mark_plain first (hl _ List.mem_cons_self) d
    have hrest := ih fun a ha => hl a (List.mem_cons_of_mem _ ha)
    rw [List.flatMap_cons, List.countP_append]
    omega

/-- Who has been prompted waits, and the verdict is not that the tracer is there. -/
structure Fit (s : Scheduler) : Prop where
  waits : ∀ d, isPrompted s d = true → Gated s d s.interpreter
  unavailable : ∀ d, isPrompted s d = true → verdict s ≠ .available

theorem gated_put {id : DocumentId} {slot slot' : Slot} {interpreter : Path}
    (hs : s.slot? id = some slot) (hu : s'.documents = (put s id slot').documents)
    (hg : slot.isGatedOn interpreter = true → slot'.isGatedOn interpreter = true)
    (h : Gated s d interpreter) : Gated s' d interpreter := by
  obtain ⟨slot'', hd, hgate⟩ := h
  rw [Gated, Scheduler.slot?, hu]
  change ∃ x, (put s id slot').slot? d = some x ∧ _
  rw [slot?_put]
  split
  · next he =>
    subst he
    rw [hs] at hd
    cases hd
    exact ⟨slot', rfl, hg hgate⟩
  · exact ⟨slot'', hd, hgate⟩

theorem gated_same {p q : Path} (h : p.same q = true) (hg : Gated s d p) : Gated s d q := by
  obtain ⟨slot, hs, hgate⟩ := hg
  refine ⟨slot, hs, ?_⟩
  rw [Slot.isGatedOn] at hgate ⊢
  split
  · next g hslot =>
    rw [hslot] at hgate
    exact beq_iff_eq.mpr ((eq_of_beq hgate).trans (eq_of_beq h))
  · next hslot => rwa [hslot] at hgate

theorem gated_update (id : DocumentId) (h : Gated s d s.interpreter) :
    Gated (s.update id (gated s.interpreter)) d s.interpreter := by
  obtain ⟨slot, hd, hgate⟩ := h
  rw [Gated, slot?_update]
  split
  · refine ⟨gated s.interpreter slot, by rw [hd]; rfl, ?_⟩
    rw [gated]
    split
    · exact same_self _
    · exact hgate
  · exact ⟨slot, hd, hgate⟩

/-- As long as the verdict is not that the tracer is there, who waits goes on waiting. -/
theorem gated_plain (h : Does s a s') (ha : isPlain a = true) (hv : verdict s ≠ .available)
    (hg : Gated s d s.interpreter) : Gated s' d s.interpreter := by
  cases h with
  | start hs hno hr hst | miscopy hs hno hr hst | refuse hs hno hr hst => exact absurd hst hv
  | calm hs | release hs | kill hs | prompt hs | accept hs => exact gated_put hs rfl id hg
  | park hs => exact gated_put hs rfl (fun _ => same_self _) hg
  | @ask snapshot due es =>
    cases hs : s.slot? snapshot.document with
    | some slot => exact gated_put hs rfl id hg
    | none =>
      obtain ⟨slot, hd, hgate⟩ := hg
      refine ⟨slot, ?_, hgate⟩
      rw [slot?_extend, slot?_put, if_neg, hd]
      rintro rfl
      rw [hs] at hd
      cases hd
  | @install id | @installRefused id => exact gated_update id hg
  | @installed p id success output es =>
    cases success with
    | false => exact hg
    | true => cases ha
  | judge | close => cases ha
  | _ => exact hg

theorem prompt_of_count (h : a.notices.countP (promptsTo d) ≠ 0) :
    ∃ p message, a = .prompt d p message := by
  obtain ⟨n, hn, hd⟩ := List.countP_pos_iff.mp (Nat.pos_of_ne_zero h)
  cases a with
  | prompt id p message =>
    cases List.mem_singleton.mp hn
    obtain rfl : id = d := of_decide_eq_true hd
    exact ⟨p, message, rfl⟩
  | start | fail | accept | installed =>
    cases List.mem_singleton.mp hn
    cases hd
  | _ => cases hn

theorem Fit.plain (hf : Formed s) (h : Fit s) (hdoes : Does s a s') (ha : isPlain a = true) :
    Fit s' := by
  have hi := interpreter_does hdoes
  have hprompted : ∀ d, isPrompted s' d = true →
      Gated s' d s'.interpreter ∧ verdict s' ≠ .available := by
    intro d hd
    cases hb : isPrompted s d with
    | true =>
      have hv := h.unavailable d hb
      rw [hi]
      exact ⟨gated_plain hdoes ha hv (h.waits d hb),
        (Acts.single hdoes).unavailable_kept (by simpa using ha) hv⟩
    | false =>
      have hcount := mark_plain hdoes ha d
      rw [mark, mark, hb, hd] at hcount
      change a.notices.countP (promptsTo d) + 0 = 1 at hcount
      have hprompt : a.notices.countP (promptsTo d) ≠ 0 := by omega
      obtain ⟨p, message, rfl⟩ := prompt_of_count hprompt
      cases hdoes with
      | @prompt _ slot _ hs hp hg hu =>
        have hgate : Gated s d p := ⟨slot, hs, hg⟩
        have hsame := (gateOf_of_gated hf hgate).2
        have hst : verdict s = .unavailable := (status_same hsame).trans hu
        refine ⟨gated_put hs rfl id (gated_same (same_comm hsame) hgate), ?_⟩
        change verdict s ≠ _
        simp [hst]
  exact ⟨fun d hd => (hprompted d hd).1, fun d hd => (hprompted d hd).2⟩

theorem Fit.plains (hf : Formed s) (h : Fit s) (hl : Acts s l s')
    (hplain : ∀ a ∈ l, isPlain a = true) : Fit s' := by
  induction hl with
  | nil => exact h
  | cons first rest ih =>
    exact ih (hf.does first) (h.plain hf first (hplain _ List.mem_cons_self))
      fun a ha => hplain a (List.mem_cons_of_mem _ ha)

/-- An act by which a verdict on an interpreter comes. -/
structure Renewal (s : Scheduler) (p : Path) (a : Act) (s' : Scheduler) : Prop where
  does : Does s a s'
  slot? : ∀ k, s'.slot? k = (s.slot? k).map (renew p)
  quiet : ∀ d, a.notices.countP (promptsTo d) = 0
  other : ¬ p.same s.interpreter = true → verdict s' = verdict s

theorem renewal_judge {p : Path} {b : Bool} (h : Does s (.judge p b) s') :
    Renewal s p (.judge p b) s' where
  does := h
  slot? := slot?_judge h
  quiet _ := rfl
  other hp := judge_elsewhere h hp

theorem Vouches.renewal {completion : Completion} {p : Path} (ha : Vouches completion p a)
    (h : Does s a s') : Renewal s p a s' where
  does := h
  slot? := ha.slot? h
  quiet _ := by cases ha <;> rfl
  other hp := ha.elsewhere h hp

section Renewal

variable {p : Path}

/-- A verdict takes off all marks, since who has been prompted waits. -/
theorem Renewal.unmarked (h : Renewal s p a s') (hfit : Fit s)
    (hp : p.same s.interpreter = true) (d : DocumentId) : isPrompted s' d = false := by
  cases hb : isPrompted s d with
  | true => exact (renewed_of_gated (gated_same (same_comm hp) (hfit.waits d hb)) (h.slot? d)).2
  | false =>
    rw [isPrompted] at hb ⊢
    rw [h.slot?]
    cases hs : s.slot? d with
    | none => rfl
    | some slot =>
      rw [hs, Option.any_some] at hb
      rw [Option.map_some, Option.any_some, renew]
      split
      · rfl
      · exact hb

/-- A verdict on another interpreter changes no slot. -/
theorem Renewal.unchanged (h : Renewal s p a s') (hf : Formed s)
    (hp : ¬ p.same s.interpreter = true) (d : DocumentId) : s'.slot? d = s.slot? d := by
  rw [h.slot?]
  cases hs : s.slot? d with
  | none => rfl
  | some slot =>
    rw [Option.map_some, renew, if_neg]
    intro hg
    exact hp (same_comm (gateOf_of_gated hf ⟨slot, hs, hg⟩).2)

theorem Renewal.fit (h : Renewal s p a s') (hf : Formed s) (hfit : Fit s) : Fit s' := by
  by_cases hp : p.same s.interpreter = true
  · have hno : ∀ d, isPrompted s' d ≠ true := by
      intro d
      rw [h.unmarked hfit hp d]
      simp
    exact ⟨fun d hd => absurd hd (hno d), fun d hd => absurd hd (hno d)⟩
  · have hsame : ∀ d, isPrompted s' d = isPrompted s d := by
      intro d
      rw [isPrompted, isPrompted, h.unchanged hf hp]
    constructor
    · intro d hd
      rw [hsame] at hd
      rw [Gated, h.unchanged hf hp, interpreter_does h.does]
      exact hfit.waits d hd
    · intro d hd
      rw [hsame] at hd
      rw [h.other hp]
      exact hfit.unavailable d hd

/-- After a verdict prompts are counted from nothing. -/
theorem Renewal.counts {mid : Scheduler} (h : Renewal s p a mid) (hf : Formed s) (hfit : Fit s)
    (rest : Acts mid l s') (hl : ∀ b ∈ l, isPlain b = true) (d : DocumentId) :
    ((a :: l).flatMap Act.notices).countP (promptsTo d) +
      (if p.same s.interpreter then 0 else mark s d) = mark s' d := by
  have hrest := mark_plains rest hl d
  have hmid : mark mid d = if p.same s.interpreter then 0 else mark s d := by
    split
    · next hp => rw [mark, h.unmarked hfit hp, Bool.toNat_false]
    · next hp => rw [mark, mark, isPrompted, isPrompted, h.unchanged hf hp]
  rw [List.flatMap_cons, List.countP_append, h.quiet, Nat.zero_add, ← hmid]
  exact hrest

end Renewal

section Close

variable {id : DocumentId} {process : Option Nat} {scratch : Option Path}

theorem slot?_close (h : Does s (.close id process scratch) s') (k : DocumentId) :
    s'.slot? k = if id = k then none else s.slot? k := by
  cases h
  exact Keyed.get?_erase ..

theorem Fit.close (h : Fit s) (hdoes : Does s (.close id process scratch) s') : Fit s' := by
  have hstill : ∀ d, isPrompted s' d = true → isPrompted s d = true ∧ s'.slot? d = s.slot? d := by
    intro d hd
    have hslot := slot?_close hdoes d
    split at hslot
    · rw [isPrompted, hslot] at hd
      cases hd
    · rw [isPrompted, hslot] at hd
      exact ⟨hd, hslot⟩
  constructor
  · intro d hd
    obtain ⟨hb, hslot⟩ := hstill d hd
    rw [Gated, hslot, interpreter_does hdoes]
    exact h.waits d hb
  · intro d hd
    cases hdoes.shifts with
    | same he =>
      rw [he]
      exact h.unavailable d (hstill d hd).1

end Close

/-- How a turn prompts a document, by the mark before it and after. -/
structure Marked (s : Scheduler) (t : Turn) (d : DocumentId) : Prop where
  renewed : Renews s.interpreter t.move → t.prompts s d = mark (t.apply s) d
  closed : t.move = .close d → t.prompts s d = 0 ∧ mark (t.apply s) d = 0
  counted : ¬ Renews s.interpreter t.move → t.move ≠ .close d →
    t.prompts s d + mark s d = mark (t.apply s) d

theorem settles_unique {p q : Path} {move : Move} (h : Settles p move) (h' : Settles q move) :
    p = q := by
  cases h <;> cases h' <;> rfl

theorem Renewal.marked {p : Path} {mid : Scheduler} (h : Renewal s p a mid) (hf : Formed s)
    (hfit : Fit s) (hs : Settles p t.move) (rest : Acts mid l (t.apply s))
    (hl : ∀ b ∈ l, isPlain b = true) (htold : t.told s = (a :: l).flatMap Act.notices)
    (d : DocumentId) : Marked s t d := by
  have hcounts := h.counts hf hfit rest hl d
  rw [← htold] at hcounts
  refine ⟨?_, ?_, ?_⟩
  · rintro ⟨q, hq, hs'⟩
    rw [settles_unique hs hs', if_pos hq, Nat.add_zero] at hcounts
    exact hcounts
  · intro hm
    rw [hm] at hs
    cases hs
  · intro hno _
    rw [if_neg fun hp => hno ⟨p, hp, hs⟩] at hcounts
    exact hcounts

theorem Plays.fit (hf : Formed s) (hfit : Fit s) (h : Plays s t l s') : Fit s' := by
  cases h.leads with
  | denied hm ho first rest =>
    exact ((renewal_judge first).fit hf hfit).plains (hf.does first) rest.acts rest.plain
  | granted hm hv ha first rest =>
    exact ((ha.renewal first).fit hf hfit).plains (hf.does first) rest.acts rest.plain
  | closed hm first => exact hfit.close first
  | plain hm hc acts hl => exact hfit.plains hf acts hl

theorem Plays.marked (hf : Formed s) (hfit : Fit s) (h : Plays s t l (t.apply s))
    (d : DocumentId) : Marked s t d := by
  have htold := h.told
  have hprompts : t.prompts s d = (l.flatMap Act.notices).countP (promptsTo d) := by
    rw [Turn.prompts, htold]
  generalize hs' : t.apply s = s' at h
  cases h.leads with
  | denied hm ho first rest =>
    subst hs'
    exact (renewal_judge first).marked hf hfit (hm ▸ .probe) rest.acts rest.plain htold d
  | granted hm hv ha first rest =>
    subst hs'
    exact (ha.renewal first).marked hf hfit (hm ▸ settles_of_vouched hv) rest.acts
      rest.plain htold d
  | @closed id process scratch _ hm first =>
    subst hs'
    have hzero : t.prompts s d = 0 := hprompts
    have hslot := slot?_close first d
    refine ⟨?_, fun hclose => ?_, fun _ hother => ?_⟩
    · rintro ⟨p, -, hs⟩
      rw [hm] at hs
      cases hs
    · cases hm.symm.trans hclose
      rw [if_pos rfl] at hslot
      exact ⟨hzero, by rw [mark, isPrompted, hslot]; rfl⟩
    · rw [if_neg fun he : id = d => hother (he ▸ hm)] at hslot
      rw [hzero, Nat.zero_add, mark, mark, isPrompted, isPrompted, hslot]
  | plain hm hc acts hl =>
    subst hs'
    have hcounts := mark_plains acts hl d
    rw [← hprompts] at hcounts
    refine ⟨?_, ?_, fun _ _ => hcounts⟩
    · rintro ⟨p, -, hs⟩
      exact absurd hs (hm p)
    · intro hclose
      obtain ⟨hnone, rfl⟩ := hc d hclose
      have hmark : mark s d = 0 := by rw [mark, isPrompted, hnone]; rfl
      have hzero : t.prompts s d = 0 := hprompts
      exact ⟨hzero, by rw [← hcounts, hzero, hmark]⟩

theorem Attempt.missed {id : DocumentId} (hf : Formed s)
    (h : Attempt s id l (.notRun .unavailable) s') : isPrompted s' id = true := by
  cases h with
  | unavailable hu hp hl => exact hl.done id (by simp)
  | @unprobed mid spec interpreter mid' l s' hpark h hl =>
    obtain ⟨slot, hs, hg⟩ := slot?_park hpark
    rw [← slot?_probeRefused h] at hs
    exact hl.done id ((mem_waiting ((hf.does hpark).does h) _ id).mpr ⟨slot, hs, hg⟩)

theorem Launch.missed {id : DocumentId} (hf : Formed s)
    (h : Launch s id l (.notRun .unavailable) s') : isPrompted s' id = true := by
  cases h with
  | mk begins first rest => exact rest.missed (hf.does first)

theorem Round.missed {calm : Bool} {ids : List DocumentId} {ds : List (DocumentId × Decision)}
    (hf : Formed s) (h : Round calm s ids l ds s') (hd : (d, .notRun .unavailable) ∈ ds) :
    isPrompted s' d = true := by
  induction h with
  | nil => cases hd
  | cons hpre first launch rest ih =>
    have hf' := hf.acts first
    rcases List.mem_cons.mp hd with he | hd
    · cases he
      exact isPrompted_kept rest.acts rest.attempting (launch.missed hf')
    · exact ih (hf'.acts launch.acts) hd

/-- Who is not run because the tracer is missing has been prompted. -/
theorem Plays.missed (hf : Formed s) (h : Plays s t l s')
    (hd : (d, .notRun .unavailable) ∈ t.attempts s) : isPrompted s' d = true := by
  cases h with
  | requested hm ht ha h hl | reissued hm ha h hl =>
    rw [ha] at hd
    cases List.mem_singleton.mp hd
    exact hl.missed (hf.does h)
  | fired hm hr => exact hr.missed hf hd
  | woken hm hv ha h hr => exact hr.missed (hf.does h) hd
  | edited hm | accepted hm | installing hm | closed hm =>
    simp [Turn.attempts, hm, vouched?] at hd
  | judged hm ho | uninstalled hm ho => simp [Turn.attempts, hm, vouched?, ho] at hd
  | still hq =>
    cases hq with
    | trace hm | install hm | close hm => simp [Turn.attempts, hm, vouched?] at hd
    | @reissue id hm hs =>
      have hno : (s.reissue t.env id).2 = .notRun .noRequest := by
        rw [Scheduler.reissue, update_none hs, launchLatest_none _ hs]
      simp [Turn.attempts, hm, hno] at hd

section Runs

variable {start : Scheduler} {past : List Turn}

theorem fit_play (hf : Formed start) (h : Fit start) (past : List Turn) :
    Fit (play start past) := by
  induction past using List.reverseRecOn with
  | nil => exact h
  | append_singleton past t ih =>
    have hf' := formed_play hf past
    obtain ⟨l, hl⟩ := turn_unfolds hf' t
    rw [play_append]
    exact hl.fit hf' ih

theorem marked_play (hf : Formed start) (h : Fit start) (past : List Turn) (t : Turn)
    (d : DocumentId) : Marked (play start past) t d := by
  have hf' := formed_play hf past
  obtain ⟨l, hl⟩ := turn_unfolds hf' t
  exact hl.marked hf' (fit_play hf h past) d

theorem Marked.le_one (h : Marked s t d) : t.prompts s d ≤ 1 := by
  have hle := mark_le (t.apply s) d
  by_cases hr : Renews s.interpreter t.move
  · rw [h.renewed hr]
    exact hle
  by_cases hc : t.move = .close d
  · rw [(h.closed hc).1]
    exact Nat.zero_le 1
  · have hcounted := h.counted hr hc
    omega

/-- A document that was prompted in a turn has the mark after it. -/
theorem Marked.marks (h : Marked s t d) (hp : 0 < t.prompts s d) : mark (t.apply s) d = 1 := by
  have hle := mark_le (t.apply s) d
  by_cases hr : Renews s.interpreter t.move
  · have hrenewed := h.renewed hr
    omega
  by_cases hc : t.move = .close d
  · rw [(h.closed hc).1] at hp
    exact absurd hp (Nat.lt_irrefl 0)
  · have hcounted := h.counted hr hc
    omega

/-- The mark of a document lasts until a verdict comes or the document is closed. -/
theorem mark_lasts (hf : Formed start) (h : Fit start) (hm : mark (play start past) d = 1)
    (mid : List Turn)
    (hno : ∀ v ∈ mid, ¬ Renews start.interpreter v.move ∧ v.move ≠ .close d) :
    mark (play start (past ++ mid)) d = 1 := by
  induction mid using List.reverseRecOn with
  | nil => rwa [List.append_nil]
  | append_singleton mid v ih =>
    have hbefore := ih fun w hw => hno w (List.mem_append_left _ hw)
    obtain ⟨hr, hc⟩ := hno v (by simp)
    rw [← interpreter_play hf (past ++ mid)] at hr
    have hcounted := (marked_play hf h (past ++ mid) v d).counted hr hc
    have hle := mark_le (v.apply (play start (past ++ mid))) d
    rw [← List.append_assoc, play_append start (past ++ mid), play_cons, play_nil]
    omega

/-- A document that has the mark has been prompted since it was opened and since the verdict. -/
theorem prompted_since (hf : Formed start) (h : Fit start) (hnone : mark start d = 0)
    (past : List Turn) (hm : mark (play start past) d = 1) :
    ∃ before u mid, past = before ++ u :: mid ∧ 0 < u.prompts (play start before) d ∧
      ∀ a v b, mid = a ++ v :: b → ¬ Renews start.interpreter v.move ∧
        ¬ Opens (play start (before ++ u :: a)) v d := by
  induction past using List.reverseRecOn with
  | nil =>
    rw [play_nil, hnone] at hm
    cases hm
  | append_singleton past t ih =>
    rw [play_append, play_cons, play_nil] at hm
    have hmarked := marked_play hf h past t d
    rcases Nat.eq_zero_or_pos (t.prompts (play start past) d) with hzero | hpos
    · have hr : ¬ Renews (play start past).interpreter t.move := by
        intro hr
        have hrenewed := hmarked.renewed hr
        omega
      have hc : t.move ≠ .close d := by
        intro hc
        rw [(hmarked.closed hc).2] at hm
        cases hm
      have hbefore : mark (play start past) d = 1 := by
        have hcounted := hmarked.counted hr hc
        omega
      have hopen : ¬ Opens (play start past) t d := by
        rintro ⟨hs, -⟩
        rw [mark, isPrompted, hs] at hbefore
        cases hbefore
      obtain ⟨before, u, mid, rfl, hu, hmid⟩ := ih hbefore
      rw [interpreter_play hf] at hr
      refine ⟨before, u, mid ++ [t], by simp, hu, fun a v b he => ?_⟩
      rcases split_snoc he with ⟨rfl, rfl, -⟩ | ⟨rest, -, he⟩
      · exact ⟨hr, hopen⟩
      · exact hmid a v rest he
    · exact ⟨past, t, [], rfl, hpos, fun a v b he => by simp at he⟩

end Runs

/-- A document is prompted once for each verdict that the tracer is missing. -/
theorem prompted_once (availability : Availability) (options : Options) (turns : List Turn) :
    PromptedOnce (.new availability options) turns := by
  have hf := formed_new availability options
  have hnone : ∀ d, isPrompted (.new availability options) d = false := fun d => rfl
  have hfit : Fit (.new availability options) :=
    ⟨fun d hd => absurd hd (by simp [hnone]), fun d hd => absurd hd (by simp [hnone])⟩
  constructor
  · intro past t later d he
    exact (marked_play hf hfit past t d).le_one
  · intro past t mid u later d he ht hu
    by_contra hno
    rw [not_or] at hno
    obtain ⟨hr, hc⟩ := hno
    have hmark : mark (play (.new availability options) (past ++ [t])) d = 1 := by
      rw [play_append]
      exact (marked_play hf hfit past t d).marks ht
    have hlast := mark_lasts hf hfit hmark mid fun v hv =>
      ⟨fun h => hr ⟨v, List.mem_append_left _ hv, h⟩, fun h => hc ⟨v, hv, h⟩⟩
    rw [← List.append_cons] at hlast
    have hmarked := marked_play hf hfit (past ++ t :: mid) u d
    have hur : ¬ Renews (play (.new availability options) (past ++ t :: mid)).interpreter
        u.move := by
      rw [interpreter_play hf]
      exact fun h => hr ⟨u, by simp, h⟩
    by_cases huc : u.move = .close d
    · rw [(hmarked.closed huc).1] at hu
      exact absurd hu (Nat.lt_irrefl 0)
    · have hcounted := hmarked.counted hur huc
      have hle := mark_le (u.apply (play (.new availability options) (past ++ t :: mid))) d
      omega
  · intro past t later d he hd
    have hf' := formed_play hf past
    obtain ⟨l, hl⟩ := turn_unfolds hf' t
    have hp := hl.missed hf' hd
    refine prompted_since hf hfit (by rw [mark, hnone]; rfl) (past ++ [t]) ?_
    rw [play_append, play_cons, play_nil, mark, hp]
    rfl

end TraceView.Proofs.Run
