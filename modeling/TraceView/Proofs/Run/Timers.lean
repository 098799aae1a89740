import TraceView.Proofs.Run.Launches
import TraceView.Proofs.Run.Local
import TraceView.Proofs.Run.RefusedInstall

/-!
# Timers

A tick attempts the documents whose timer has come, each of them once, and stops their timers; no
other timer is touched by what the attempts do. So whatever is still pending after a tick is pending
for a later time, and there is less of it if there was anything to be done.
-/
namespace TraceView.Proofs.Run

open TraceView.Run
open TraceView.Proofs.KeyOrder

variable {s : Scheduler} {t : Turn} {d : DocumentId} {now due : Nat}

theorem dueOf_bare (s : Scheduler) (d : DocumentId) : dueOf s d = (bare s d).bind (·.due) := by
  rw [dueOf, bare, Option.bind_map]
  rfl

theorem dueOf_some : dueOf s d = some due ↔ ∃ slot, s.slot? d = some slot ∧ slot.due = some due :=
  Option.bind_eq_some_iff

/-- The documents whose timer is pending, in order. -/
def ticking (s : Scheduler) : List DocumentId :=
  Keyed.keys (s.documents.filter fun e => e.2.due.isSome)

theorem mem_ticking (hf : Formed s) : d ∈ ticking s ↔ ∃ due, dueOf s d = some due := by
  rw [ticking, mem_keys_filter hf.ordered]
  constructor
  · rintro ⟨slot, hs, hd⟩
    obtain ⟨due, hdue⟩ := Option.isSome_iff_exists.mp hd
    exact ⟨due, dueOf_some.mpr ⟨slot, hs, hdue⟩⟩
  · rintro ⟨due, h⟩
    obtain ⟨slot, hs, hdue⟩ := dueOf_some.mp h
    exact ⟨slot, hs, Option.isSome_iff_exists.mpr ⟨due, hdue⟩⟩

theorem nodup_ticking (hf : Formed s) : (ticking s).Nodup :=
  nodup_keys_filter hf.ordered _

theorem mem_deadlines (hf : Formed s) :
    due ∈ s.documents.filterMap (fun e => e.2.due) ↔ ∃ d, dueOf s d = some due := by
  rw [List.mem_filterMap]
  constructor
  · rintro ⟨⟨d, slot⟩, hm, hdue⟩
    exact ⟨d, dueOf_some.mpr ⟨slot, get?_of_mem hf.ordered hm, hdue⟩⟩
  · rintro ⟨d, h⟩
    obtain ⟨slot, hs, hdue⟩ := dueOf_some.mp h
    exact ⟨(d, slot), get?_mem hs, hdue⟩

/-- The earliest time for which a timer is pending, if there is one. -/
def Earliest (s : Scheduler) : Option Nat → Prop
  | none => ∀ d, dueOf s d = none
  | some due => (∃ d, dueOf s d = some due) ∧ ∀ d later, dueOf s d = some later → due ≤ later

theorem earliest_nextDeadline (hf : Formed s) : Earliest s s.nextDeadline? := by
  cases h : s.nextDeadline? with
  | none =>
    intro d
    cases hd : dueOf s d with
    | none => rfl
    | some due =>
      have hm := (mem_deadlines hf).mpr ⟨d, hd⟩
      rw [List.min?_eq_none_iff.mp h] at hm
      cases hm
  | some due =>
    obtain ⟨hm, hle⟩ := List.min?_eq_some_iff.mp h
    exact ⟨(mem_deadlines hf).mp hm, fun d later hd => hle later ((mem_deadlines hf).mpr ⟨d, hd⟩)⟩

theorem mem_expired_iff (hf : Formed s) :
    d ∈ s.expired now ↔ ∃ due, dueOf s d = some due ∧ due ≤ now := by
  rw [mem_expired hf]
  constructor
  · rintro ⟨slot, hs, hany⟩
    obtain ⟨due, hdue, hle⟩ := (Option.any_eq_true _ _).mp hany
    exact ⟨due, dueOf_some.mpr ⟨slot, hs, hdue⟩, of_decide_eq_true hle⟩
  · rintro ⟨due, h, hle⟩
    obtain ⟨slot, hs, hdue⟩ := dueOf_some.mp h
    exact ⟨slot, hs, (Option.any_eq_true _ _).mpr ⟨due, hdue, decide_eq_true hle⟩⟩

/-- What a tick does to the timers, whatever the attempts it makes do. -/
structure Fires (s : Scheduler) (now : Nat) (attempts : List (DocumentId × Decision))
    (s' : Scheduler) : Prop where
  ascending : (attempts.map (·.1)).Pairwise (· < ·)
  due_iff : ∀ d, d ∈ attempts.map (·.1) ↔ ∃ due, dueOf s d = some due ∧ due ≤ now
  timers : ∀ d, dueOf s' d = if d ∈ attempts.map (·.1) then none else dueOf s d

/-- Nothing that is pending after a tick had come. -/
theorem Fires.later {attempts : List (DocumentId × Decision)} {s' : Scheduler}
    (h : Fires s now attempts s') (hd : dueOf s' d = some due) : now < due := by
  rw [h.timers] at hd
  split at hd
  · cases hd
  · next hnot => exact Nat.lt_of_not_le fun hle => hnot ((h.due_iff d).mpr ⟨due, hd, hle⟩)

theorem documents_attemptEach (calm : Bool) (env : Surroundings) (ids : List DocumentId)
    (s : Scheduler) : (attemptEach calm env s ids).2.map (·.1) = ids := by
  induction ids generalizing s with
  | nil => rfl
  | cons id rest ih => exact congrArg (id :: ·) (ih _)

theorem documents_fireDue (env : Surroundings) (s : Scheduler) (now : Nat) :
    (s.fireDue env now).2.map (·.1) = s.expired now := by
  rw [Scheduler.fireDue, launchEach_eq, documents_attemptEach]

/-- The timer of a document that was attempted is stopped, and of any other left as it was. -/
theorem dueOf_tick (hf : Formed s) (hm : t.move = .tick) (d : DocumentId) :
    dueOf (t.apply s) d = if d ∈ s.expired t.now then none else dueOf s d := by
  have hattempted : t.attempted s = s.expired t.now := by
    rw [← documents_fireDue t.env, Turn.attempted, Turn.attempts, hm]
  obtain ⟨l, hl⟩ := turn_unfolds hf t
  rw [dueOf_bare, dueOf_bare, ← hattempted]
  cases hl.fares hf d with
  | @attempted slot slot' pre b e hw ha hb hlist hz hr =>
    rw [if_pos ha, hz, Option.bind_some, hr.due]
    cases hw with
    | requested | reissued | fired => rfl
    | woken hm' =>
      rw [hm] at hm'
      cases hm'
  | aside h hlist hz =>
    rw [hz]
    cases hs : bare s d with
    | none => rw [Option.bind_none, ite_self]
    | some slot =>
      have hopen : (s.slot? d).isSome := by
        rw [← Option.isSome_map, ← bare, hs]
        rfl
      rw [if_neg (h.unattempted hopen)]
  | edited hm' | accepted hm' | installing hm' | closed hm' =>
    rw [hm] at hm'
    cases hm'

theorem fires_fireDue (hf : Formed s) (env : Surroundings) (now : Nat) :
    Fires s now (s.fireDue env now).2 (s.fireDue env now).1 where
  ascending := by
    rw [documents_fireDue]
    exact ordered_keys_filter hf.ordered _
  due_iff d := by
    rw [documents_fireDue]
    exact mem_expired_iff hf
  timers d := by
    rw [documents_fireDue]
    exact dueOf_tick (t := ⟨env, now, .tick⟩) hf rfl d

theorem Fires.next {attempts : List (DocumentId × Decision)} {s' : Scheduler}
    (h : Fires s now attempts s') (hf : Formed s') (hn : s'.nextDeadline? = some due) :
    now < due := by
  have hearliest := earliest_nextDeadline hf
  rw [hn] at hearliest
  obtain ⟨⟨d, hd⟩, -⟩ := hearliest
  exact h.later hd

/-- A tick that comes no earlier than the next deadline leaves fewer timers pending. -/
theorem Fires.fewer {attempts : List (DocumentId × Decision)} {s' : Scheduler}
    (h : Fires s now attempts s') (hf : Formed s) (hf' : Formed s')
    (hn : s.nextDeadline? = some due) (hle : due ≤ now) :
    (ticking s').length < (ticking s).length := by
  have hearliest := earliest_nextDeadline hf
  rw [hn] at hearliest
  obtain ⟨⟨d, hd⟩, -⟩ := hearliest
  have hpending : d ∈ ticking s := (mem_ticking hf).mpr ⟨due, hd⟩
  have hsubset : ticking s' ⊆ (ticking s).erase d := by
    intro b hb
    obtain ⟨later, hlater⟩ := (mem_ticking hf').mp hb
    have hkept := hlater
    rw [h.timers] at hkept
    split at hkept
    · cases hkept
    · refine ((nodup_ticking hf).mem_erase_iff).mpr ⟨?_, (mem_ticking hf).mpr ⟨later, hkept⟩⟩
      rintro rfl
      cases hd.symm.trans hkept
      exact Nat.not_lt.mpr hle (h.later hlater)
  have hlength := (nodup_ticking hf').length_le_of_subset hsubset
  rw [List.length_erase_of_mem hpending] at hlength
  have hpos := List.length_pos_of_mem hpending
  omega

end TraceView.Proofs.Run
