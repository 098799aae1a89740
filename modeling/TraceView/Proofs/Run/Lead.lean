import TraceView.Proofs.Run.Wakeup

/-!
# What a turn begins with

A verdict comes, and a document is closed, with the first act of a turn. All that follows is done by
prompts and launch attempts.
-/
namespace TraceView.Proofs.Run

open TraceView.Run

/-- Acts that bring no verdict and close no document. -/
def isPlain : Act → Bool
  | .judge .. | .close .. => false
  | .installed _ _ success _ => !success
  | _ => true

/-- The acts of a turn, by the first of them. -/
inductive Leads (s : Scheduler) (t : Turn) : List Act → Scheduler → Prop where
  | denied {p outcome mid l} {s' : Scheduler} (hm : t.move = .complete ⟨.probe p, outcome⟩)
      (ho : outcome.success = false) (first : Does s (.judge p false) mid)
      (rest : Prompting mid p (mid.waiting p) l s') : Leads s t (.judge p false :: l) s'
  | granted {completion p a mid l} {s' : Scheduler} (hm : t.move = .complete completion)
      (hv : vouched? completion = some p) (ha : Vouches completion p a) (first : Does s a mid)
      (rest : Round false mid (mid.waiting p) l (t.attempts s) s') : Leads s t (a :: l) s'
  | closed {id process scratch} {s' : Scheduler} (hm : t.move = .close id)
      (first : Does s (.close id process scratch) s') :
      Leads s t [.close id process scratch] s'
  | plain {l} {s' : Scheduler} (hm : ∀ p, ¬ Settles p t.move)
      (hc : ∀ id, t.move = .close id → s.slot? id = none ∧ l = [.idle]) (acts : Acts s l s')
      (hl : ∀ a ∈ l, isPlain a = true) : Leads s t l s'

variable {s s' : Scheduler} {t : Turn} {l : List Act} {a : Act}

theorem plain_of_attempting {p : Path} (h : isAttempting p a = true) : isPlain a = true := by
  cases a with
  | judge | installed | close => cases h
  | _ => rfl

theorem Prompting.plain {p : Path} {ids : List DocumentId} (h : Prompting s p ids l s') :
    ∀ a ∈ l, isPlain a = true :=
  fun a ha => plain_of_attempting (h.attempting a ha)

theorem Launch.plain {id : DocumentId} {decision : Decision} (h : Launch s id l decision s') :
    ∀ a ∈ l, isPlain a = true :=
  fun a ha => plain_of_attempting (h.attempting a ha)

theorem Round.plain {calm : Bool} {ids : List DocumentId} {ds : List (DocumentId × Decision)}
    (h : Round calm s ids l ds s') : ∀ a ∈ l, isPlain a = true :=
  fun a ha => plain_of_attempting (h.attempting a ha)

theorem settles_of_vouched {completion : Completion} {p : Path}
    (h : vouched? completion = some p) : Settles p (.complete completion) := by
  obtain ⟨tag, outcome⟩ := completion
  cases tag with
  | trace => cases h
  | probe q =>
    simp only [vouched?, Option.ite_none_right_eq_some, Option.some.injEq] at h
    obtain ⟨-, rfl⟩ := h
    exact .probe
  | install q id =>
    simp only [vouched?, Option.ite_none_right_eq_some, Option.some.injEq] at h
    obtain ⟨ho, rfl⟩ := h
    exact .install ho

theorem Plays.leads (h : Plays s t l s') : Leads s t l s' := by
  have hacts := h.acts
  cases h with
  | judged hm ho first rest => exact .denied hm ho first rest
  | woken hm hv ha first rest => exact .granted hm hv ha first rest
  | closed hm first => exact .closed hm first
  | edited hm | accepted hm =>
    refine .plain (fun p hp => ?_) (by simp [hm]) hacts (by simp [isPlain])
    rw [hm] at hp
    cases hp
  | requested hm ht ha h hl | reissued hm ha h hl =>
    refine .plain (fun p hp => ?_) (by simp [hm]) hacts
      (List.forall_mem_cons.mpr ⟨rfl, hl.plain⟩)
    rw [hm] at hp
    cases hp
  | fired hm hr =>
    refine .plain (fun p hp => ?_) (by simp [hm]) hacts hr.plain
    rw [hm] at hp
    cases hp
  | uninstalled hm ho =>
    refine .plain (fun p hp => ?_) (by simp [hm]) hacts (by simp [isPlain])
    rw [hm] at hp
    cases hp with
    | install ho' =>
      rw [ho] at ho'
      cases ho'
  | installing hm ha =>
    refine .plain (fun p hp => ?_) (by simp [hm]) hacts (by cases ha <;> simp [isPlain])
    rw [hm] at hp
    cases hp
  | still hq =>
    have hc : ∀ id, t.move = .close id → s.slot? id = none := by
      intro id hm
      cases hq with
      | reissue hm' | trace hm' | install hm' => cases hm.symm.trans hm'
      | close hm' hs =>
        cases hm.symm.trans hm'
        exact hs
    refine .plain (fun p hp => ?_) (fun id hm => ⟨hc id hm, rfl⟩) hacts (by simp [isPlain])
    cases hq with
    | reissue hm | trace hm | install hm | close hm =>
      rw [hm] at hp
      cases hp

end TraceView.Proofs.Run
