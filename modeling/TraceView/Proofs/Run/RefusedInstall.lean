import TraceView.Proofs.Run.Isolation

/-!
# Installs that are refused

An install is marked as under way, and its document made to wait for it, before its process is
asked for. When there is no process only the mark is taken back.
-/
namespace TraceView.Proofs.Run

open TraceView.Run

def dueOf (s : Scheduler) (d : DocumentId) : Option Nat := (s.slot? d).bind (·.due)

/-- Nothing that can be asked of the scheduler has another answer. -/
structure Unchanged (s s' : Scheduler) : Prop where
  phases : ∀ b, s'.phase b = s.phase b
  runs : ∀ b k, s'.runState? b k = s.runState? b k
  requests : ∀ b, s'.latestRequest? b = s.latestRequest? b
  deadlines : ∀ b, dueOf s' b = dueOf s b
  gates : ∀ b, gateOf s' b = gateOf s b
  known : ∀ p, s'.availability.status p = s.availability.status p ∧
    s'.availability.isInstalling p = s.availability.isInstalling p
  notices : s'.notices = s.notices

/-- The most that a refused install changes: its document waits for the interpreter. -/
structure GatesAtMost (s s' : Scheduler) (d : DocumentId) : Prop where
  own : s'.slot? d = s.slot? d ∨ ∃ slot, s.slot? d = some slot ∧
    s'.slot? d = some { slot with gatedOn := some s.interpreter }
  others : ∀ b, b ≠ d → s'.slot? b = s.slot? b
  known : ∀ p, s'.availability.knowledge p = s.availability.knowledge p
  notices : s'.notices = s.notices

variable {s s' : Scheduler} {d : DocumentId} {env : Surroundings} {fault : InstallFault}

/-- Whatever can be asked is answered from the slots, the verdicts and the notices. -/
theorem unchanged_of_slots (hslots : ∀ b, s'.slot? b = s.slot? b)
    (hknown : ∀ p, s'.availability.knowledge p = s.availability.knowledge p)
    (hnotices : s'.notices = s.notices) : Unchanged s s' where
  phases b := by rw [Scheduler.phase, hslots, ← Scheduler.phase]
  runs b k := by rw [Scheduler.runState?, hslots, ← Scheduler.runState?]
  requests b := by rw [Scheduler.latestRequest?, hslots, ← Scheduler.latestRequest?]
  deadlines b := by rw [dueOf, hslots, ← dueOf]
  gates b := by rw [gateOf, hslots, ← gateOf]
  known p := by
    rw [Availability.status, Availability.isInstalling, hknown]
    exact ⟨rfl, rfl⟩
  notices := hnotices

/-- The scheduler as it asks for the process of an install. -/
def installing (s : Scheduler) (d : DocumentId) (a : Availability) : Scheduler :=
  ({ s with availability := a }.update d (gated s.interpreter)).log .info "installing tracer"
    [("interpreter", s.interpreter)]

theorem requestInstall_some {a : Availability}
    (hb : s.availability.beginInstall? s.interpreter = some a) :
    s.requestInstall env d =
      match (installing s d a).launch env s.options.installSpec (.install s.interpreter d) with
      | (s', .ok _) => (s', none)
      | (s', .error fault) =>
        ({ s' with availability := s'.availability.finishInstall s.interpreter false },
          some (.launch fault)) := by
  simp only [Scheduler.requestInstall, hb]
  rfl

/-- What comes of an install that is refused: another is under way, or there is no process. -/
inductive RefusesInstall (s : Scheduler) (d : DocumentId) : InstallFault → Scheduler → Prop where
  | underWay : RefusesInstall s d (.alreadyInProgress s.interpreter) s
  | unmanned {a cause} (hb : s.availability.beginInstall? s.interpreter = some a) :
      RefusesInstall s d (.launch cause)
        { turnedDown (installing s d a) s.options.installSpec (.install s.interpreter d) with
          availability := a.finishInstall s.interpreter false }

theorem requestInstall_refuses (h : (s.requestInstall env d).2 = some fault) :
    RefusesInstall s d fault (s.requestInstall env d).1 := by
  cases hb : s.availability.beginInstall? s.interpreter with
  | none =>
    have he : s.requestInstall env d = (s, some (.alreadyInProgress s.interpreter)) := by
      simp only [Scheduler.requestInstall, hb]
    rw [he] at h ⊢
    cases h
    exact .underWay
  | some a =>
    rw [requestInstall_some hb] at h ⊢
    cases hspawn : env.spawn s.attempts s.options.installSpec (.install s.interpreter d) with
    | none =>
      rw [launch_ok (s := installing s d a) hspawn] at h
      cases h
    | some cause =>
      rw [launch_refused (s := installing s d a) hspawn] at h ⊢
      cases h
      exact .unmanned hb

/-- An install that is begun and then finished without success leaves no trace. -/
theorem knowledge_unfinished {a a' : Availability} {p : Path} (hb : a.beginInstall? p = some a')
    (q : Path) : (a'.finishInstall p false).knowledge q = a.knowledge q := by
  rw [Availability.beginInstall?] at hb
  split at hb
  · cases hb
  · next hidle =>
    cases hb
    rw [Bool.not_eq_true] at hidle
    rw [Availability.finishInstall, knowledge_set, knowledge_set, knowledge_set, if_pos (same_self p)]
    split
    · next hsame =>
      rw [← knowledge_same hsame, if_neg Bool.false_ne_true, ← hidle]
    · rfl

theorem RefusesInstall.known (h : RefusesInstall s d fault s') (p : Path) :
    s'.availability.knowledge p = s.availability.knowledge p := by
  cases h with
  | underWay => rfl
  | unmanned hb => exact knowledge_unfinished hb p

theorem RefusesInstall.notices (h : RefusesInstall s d fault s') : s'.notices = s.notices := by
  cases h <;> rfl

theorem RefusesInstall.others (h : RefusesInstall s d fault s') {b : DocumentId} (hb : b ≠ d) :
    s'.slot? b = s.slot? b := by
  cases h with
  | underWay => rfl
  | unmanned => exact (slot?_update _ d _ b).trans (if_neg hb.symm)

theorem RefusesInstall.own (h : RefusesInstall s d fault s') :
    fault = .alreadyInProgress s.interpreter ∧ s'.slot? d = s.slot? d ∨
      (∃ cause, fault = .launch cause) ∧
        s'.slot? d = (s.slot? d).map (gated s.interpreter) := by
  cases h with
  | underWay => exact .inl ⟨rfl, rfl⟩
  | unmanned => exact .inr ⟨⟨_, rfl⟩, (slot?_update _ d _ d).trans (if_pos rfl)⟩

theorem gated_of_sound {p : Path} {slot : Slot} (h : Sound s.interpreter d slot) :
    gated p slot = { slot with gatedOn := some p } := by
  obtain ⟨snapshot, hrequest, -⟩ := h.asked
  rw [gated, if_pos (by rw [hrequest]; rfl)]

theorem RefusesInstall.gatesAtMost (hf : Formed s) (h : RefusesInstall s d fault s') :
    GatesAtMost s s' d where
  own := by
    rcases h.own with ⟨-, hown⟩ | ⟨-, hown⟩
    · exact .inl hown
    · cases hs : s.slot? d with
      | none => exact .inl (by rw [hown, hs]; rfl)
      | some slot =>
        refine .inr ⟨slot, rfl, ?_⟩
        rw [hown, hs, Option.map_some, gated_of_sound (hf.sound hs)]
  others b hb := h.others hb
  known := h.known
  notices := h.notices

theorem RefusesInstall.unchanged (h : RefusesInstall s d fault s')
    (hown : s'.slot? d = s.slot? d) : Unchanged s s' := by
  refine unchanged_of_slots (fun b => ?_) h.known h.notices
  by_cases hb : b = d
  · rw [hb, hown]
  · exact h.others hb

theorem RefusesInstall.unchanged_iff (hf : Formed s) (h : RefusesInstall s d fault s') :
    Unchanged s s' ↔ fault = .alreadyInProgress s.interpreter ∨ s.slot? d = none ∨
      gateOf s d = some s.interpreter := by
  rcases h.own with ⟨hfault, hown⟩ | ⟨⟨cause, rfl⟩, hown⟩
  · exact iff_of_true (h.unchanged hown) (.inl hfault)
  · cases hs : s.slot? d with
    | none =>
      rw [hs] at hown
      exact iff_of_true (h.unchanged (hown.trans hs.symm)) (.inr (.inl rfl))
    | some slot =>
      rw [hs, Option.map_some, gated_of_sound (hf.sound hs)] at hown
      have hgate' : gateOf s' d = some s.interpreter := by
        rw [gateOf, hown]
        rfl
      constructor
      · intro hunchanged
        exact .inr (.inr ((hunchanged.gates d).symm.trans hgate'))
      · rintro (hfault | hnone | hgate)
        · cases hfault
        · cases hnone
        · refine h.unchanged (hown.trans ?_)
          rw [gateOf, hs] at hgate
          have hsame : slot.gatedOn = some s.interpreter := hgate
          rw [hs, ← hsame]

/-- A refused install changes at most that its document waits, and it changes that unless another
install is under way or the document is closed or waits already. -/
theorem refused_install_unchanged_iff (availability : Availability) (options : Options)
    (past : List Turn) (env : Surroundings) (d : DocumentId) (fault : InstallFault)
    (h : ((play (.new availability options) past).requestInstall env d).2 = some fault) :
    let s := play (.new availability options) past
    let s' := (s.requestInstall env d).1
    GatesAtMost s s' d ∧
      (Unchanged s s' ↔ fault = .alreadyInProgress options.interpreter ∨ s.slot? d = none ∨
        gateOf s d = some options.interpreter) := by
  have hf := formed_play (formed_new availability options) past
  have hi : (play (.new availability options) past).interpreter = options.interpreter :=
    congrArg Options.interpreter (options_play (formed_new availability options) past)
  have hrefuses := requestInstall_refuses h
  exact ⟨hrefuses.gatesAtMost hf, hi ▸ hrefuses.unchanged_iff hf⟩

/-- A document has run. -/
def ranOnce : List Turn :=
  [⟨obliging, 0, .request ⟨"d", "one", none⟩ .save⟩,
    ⟨obliging, 1, .complete ⟨.trace "d" 1, .exited (some 0) "" ""⟩⟩]

/-- The interpreter is there and the document idle, and a refused install makes it wait. -/
theorem refused_install_gates :
    ((play (.new (.withVerdict "python" true) plainOptions) ranOnce).requestInstall refusing
        "d").2 = some (.launch (.spawn "python" ⟨.notFound, "gone"⟩)) ∧
      (play (.new (.withVerdict "python" true) plainOptions) ranOnce).phase "d" = .idle ∧
      ((play (.new (.withVerdict "python" true) plainOptions) ranOnce).requestInstall refusing
        "d").1.phase "d" = .awaitingAvailability ∧
      ¬ Unchanged (play (.new (.withVerdict "python" true) plainOptions) ranOnce)
        ((play (.new (.withVerdict "python" true) plainOptions) ranOnce).requestInstall refusing
          "d").1 := by
  refine ⟨by decide +kernel, by decide +kernel, by decide +kernel, fun h => ?_⟩
  exact absurd (h.phases "d") (by decide +kernel)

/-- Refused again, the document waits as before. -/
theorem refused_install_unchanged_iff_again :
    ((play (.new (.withVerdict "python" true) plainOptions)
        (ranOnce ++ [⟨refusing, 2, .install "d"⟩])).requestInstall refusing "d").2 =
          some (.launch (.spawn "python" ⟨.notFound, "gone"⟩)) ∧
      Unchanged
        (play (.new (.withVerdict "python" true) plainOptions)
          (ranOnce ++ [⟨refusing, 2, .install "d"⟩]))
        ((play (.new (.withVerdict "python" true) plainOptions)
          (ranOnce ++ [⟨refusing, 2, .install "d"⟩])).requestInstall refusing "d").1 :=
  have h : ((play (.new (.withVerdict "python" true) plainOptions)
      (ranOnce ++ [⟨refusing, 2, .install "d"⟩])).requestInstall refusing "d").2 =
        some (.launch (.spawn "python" ⟨.notFound, "gone"⟩)) := by decide +kernel
  ⟨h, (refused_install_unchanged_iff _ plainOptions _ refusing "d" _ h).2.mpr
    (.inr (.inr (by decide +kernel)))⟩

end TraceView.Proofs.Run
