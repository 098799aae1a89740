import Mathlib.Data.List.Induction
import TraceView.Proofs.Run.Local

/-!
# What a document last asked for

An open document keeps the snapshot of its last request until it asks again or is closed; which one
that is can be told from the turns.
-/
namespace TraceView.Proofs.Run

open TraceView.Run

/-- The snapshot a document last asked to have traced, after a turn. -/
def Turn.requests (d : DocumentId) (asked : Option Snapshot) (t : Turn) : Option Snapshot :=
  match t.move with
  | .request snapshot _ => if snapshot.document = d then some snapshot else asked
  | .close id => if id = d then none else asked
  | _ => asked

/-- The snapshot a document last asked to have traced since it was opened. -/
def lastRequest (past : List Turn) (d : DocumentId) : Option Snapshot :=
  past.foldl (Turn.requests d) none

variable {s s' : Scheduler} {t : Turn} {d : DocumentId} {l : List Act} {past : List Turn}

/-- The request in a slot. -/
def requestOf (x : Option Slot) : Option Snapshot := x.bind (·.request)

theorem requests_aside (h : Aside s t d) :
    t.requests d (requestOf (bare s d)) = requestOf (bare s d) := by
  rw [Turn.requests]
  split
  · next snapshot trigger hm => rw [if_neg (h.unasked _ _ hm)]
  · next id hm =>
    split
    · next hd =>
      subst hd
      rw [bare, h.absent hm]
      rfl
    · rfl
  · rfl

theorem requestOf_turn (hf : Formed s) (t : Turn) (d : DocumentId) :
    requestOf (bare (t.apply s) d) = t.requests d (requestOf (bare s d)) := by
  obtain ⟨l, hl⟩ := turn_unfolds hf t
  cases hl.fares hf d with
  | edited hm hd _ hz => simp [Turn.requests, hm, hd, hz, requestOf]
  | attempted hw _ _ _ hz hran =>
    rw [hz, requestOf, Option.bind_some, hran.request]
    cases hw with
    | requested hm ht hd => simp [Turn.requests, hm, hd]
    | reissued hm hx | fired hm hx | woken hm _ hx => simp [Turn.requests, hm, hx, requestOf]
  | accepted hm _ hx _ hz => simp [Turn.requests, hm, hx, hz, requestOf]
  | closed hm _ hz => simp [Turn.requests, hm, hz, requestOf]
  | aside h _ hz => rw [hz, requests_aside h]
  | installing hm _ _ hz =>
    rw [hz]
    cases bare s d with
    | none => simp [Turn.requests, hm]
    | some slot =>
      rw [Option.map_some, gated]
      split <;> simp [Turn.requests, hm, requestOf]

theorem lastRequest_play (availability : Availability) (options : Options) (past : List Turn)
    (d : DocumentId) :
    requestOf (bare (play (.new availability options) past) d) = lastRequest past d := by
  induction past using List.reverseRecOn with
  | nil => rfl
  | append_singleton past t ih =>
    rw [lastRequest, List.foldl_append, ← lastRequest, ← ih, play_append]
    exact requestOf_turn (formed_play (formed_new availability options) past) t d

end TraceView.Proofs.Run
