import TraceView.Proofs.Editor.Call
import TraceView.Proofs.Run.Round

/-!
# What calls ask of the scheduler

A request asks the scheduler for one of three things, each for the document that it names: to run
the document, to close it, or to install the tracer on its behalf. Any other turn comes of the end of
a process or of the clock.
-/
namespace TraceView.Proofs.Editor

open TraceView TraceView.Editor TraceView.Run TraceView.Proofs.Run

variable {s : Server} {c : Call} {d : DocumentId} {t : Turn}

/-- What a request may ask of the scheduler, all of it for the document that it names. -/
inductive Asks (s : Server) (command : String) (args : DocumentArgs) : Move → Prop
  | run {snapshot : Snapshot} {trigger : Trigger} (h : snapshot? s args = some snapshot) :
      Asks s command args (.request snapshot trigger)
  | close (hc : command = "close") : Asks s command args (.close args.document)
  | install (hc : command = "install") : Asks s command args (.install args.document)

theorem asks_run {command : String} {arguments : Option Json} {trigger : Trigger} {m : Move}
    (h : runAsked? s arguments trigger = some m) :
    ∃ args, named? arguments = some args ∧ Asks s command args m := by
  obtain ⟨args, hargs, h⟩ := Option.bind_eq_some_iff.mp h
  obtain ⟨snapshot, hsnapshot, h⟩ := Option.bind_eq_some_iff.mp h
  cases h
  exact ⟨args, hargs, .run hsnapshot⟩

theorem asked_asks {command : String} {arguments : Option Json} {m : Move}
    (h : asked? s command arguments = some m) :
    ∃ args, named? arguments = some args ∧ document? command arguments = some args.document ∧
      Asks s command args m := by
  have hrun : ∀ {trigger}, runAsked? s arguments trigger = some m →
      document? command arguments = (named? arguments).map (·.document) →
      ∃ args, named? arguments = some args ∧ document? command arguments = some args.document ∧
        Asks s command args m := by
    intro trigger h hd
    obtain ⟨args, hargs, hm⟩ := asks_run h
    exact ⟨args, hargs, by rw [hd, hargs, Option.map_some], hm⟩
  unfold asked? at h
  split at h
  · obtain ⟨args, hargs, h⟩ := Option.bind_eq_some_iff.mp h
    obtain ⟨text, htext, h⟩ := Option.bind_eq_some_iff.mp h
    split at h
    · cases h
      exact ⟨args, hargs, by rw [document?, hargs, Option.map_some], .run (by rw [snapshot?, htext])⟩
    · cases h
  · split at h
    · cases h
    · exact hrun h rfl
  · exact hrun h rfl
  · exact hrun h rfl
  · obtain ⟨args, hargs, rfl⟩ := Option.map_eq_some_iff.mp h
    exact ⟨args, hargs, by rw [document?, hargs, Option.map_some], .close rfl⟩
  · obtain ⟨args, hargs, rfl⟩ := Option.map_eq_some_iff.mp h
    exact ⟨args, hargs, by rw [document?, hargs, Option.map_some], .install rfl⟩
  · cases h

theorem snapshot?_document (hs : Formed s.scheduler) {args : DocumentArgs} {snapshot : Snapshot}
    (h : snapshot? s args = some snapshot) : snapshot.document = args.document := by
  rw [snapshot?] at h
  split at h
  · cases h
    rfl
  · obtain ⟨slot, hslot, hr⟩ := Option.bind_eq_some_iff.mp h
    obtain ⟨snapshot', hr', hd⟩ := (hs.sound hslot).asked
    cases hr.symm.trans hr'
    exact hd

theorem Asks.asker {command : String} {args : DocumentArgs} {m : Move} (hs : Formed s.scheduler)
    (h : Asks s command args m) : m.asker? = some args.document := by
  cases h with
  | run hsnapshot => rw [Move.asker?, snapshot?_document hs hsnapshot]
  | close | install => rfl

/-- A turn of a call is the one that its request asks for, the end of its process or a tick. -/
theorem turn?_cases (h : c.turn? s = some t) :
    (∃ seq command arguments args, c.request? = some (seq, command, arguments) ∧
      named? arguments = some args ∧ document? command arguments = some args.document ∧
      Asks s command args t.move) ∨
    (∃ completion, c.input = .ended completion ∧ t.move = .complete completion) ∨
    t.move = .tick := by
  obtain ⟨site, now, input⟩ := c
  cases input with
  | message m =>
    obtain ⟨m', hm, rfl⟩ := Option.map_eq_some_iff.mp h
    obtain ⟨⟨seq, command, arguments⟩, hreq, hask⟩ := Option.bind_eq_some_iff.mp hm
    obtain ⟨args, hargs⟩ := asked_asks hask
    exact .inl ⟨seq, command, arguments, args, hreq, hargs⟩
  | ended completion =>
    cases h
    exact .inr (.inl ⟨completion, rfl, rfl⟩)
  | tick =>
    cases h
    exact .inr (.inr rfl)

/-- A turn for a document comes of a request that names one. -/
theorem asks_of_asker (h : c.turn? s = some t) (hd : t.move.asker? = some d) :
    ∃ seq command arguments args, c.request? = some (seq, command, arguments) ∧
      named? arguments = some args ∧ document? command arguments = some args.document ∧
      Asks s command args t.move := by
  rcases turn?_cases h with hasks | ⟨completion, -, hm⟩ | hm
  · exact hasks
  · rw [hm, Move.asker?] at hd
    cases hd
  · rw [hm, Move.asker?] at hd
    cases hd

theorem Call.turn?_request {seq : Nat} {command : String} {arguments : Option Json}
    (hreq : c.request? = some (seq, command, arguments)) :
    c.turn? s = (asked? s command arguments).map fun m => ⟨c.site.toSurroundings, c.now, m⟩ := by
  obtain ⟨site, now, input⟩ := c
  cases input with
  | message m => simp only [Call.turn?, hreq, Option.bind_some]
  | ended | tick => cases hreq

/-- A turn that hears of the end of a process comes of that end. -/
theorem ended_of_move {completion : Completion} (h : c.turn? s = some t)
    (hm : t.move = .complete completion) : c.input = .ended completion := by
  rcases turn?_cases h with ⟨seq, command, arguments, args, -, -, -, hasks⟩ |
    ⟨completion', hinput, hm'⟩ | hm'
  · rw [hm] at hasks
    cases hasks
  · cases hm.symm.trans hm'
    exact hinput
  · cases hm.symm.trans hm'

/-- A call closes a document if its turn does. -/
theorem closes_iff (c : Call) (s : Server) (d : DocumentId) :
    c.closes d = true ↔ ∃ t, c.turn? s = some t ∧ t.move = .close d := by
  constructor
  · intro h
    obtain ⟨⟨seq, command, arguments⟩, hreq, hclosed⟩ :=
      Option.bind_eq_some_iff.mp (of_decide_eq_true h)
    have hc : command = "close" := Decidable.byContradiction fun hne => by
      rw [closed?, if_neg hne] at hclosed
      cases hclosed
    subst hc
    obtain ⟨args, hargs, rfl⟩ := Option.map_eq_some_iff.mp hclosed
    refine ⟨⟨c.site.toSurroundings, c.now, .close args.document⟩, ?_, rfl⟩
    rw [Call.turn?_request hreq, asked?, hargs]
    rfl
  · rintro ⟨t, ht, hm⟩
    have hasker : t.move.asker? = some d := by rw [hm, Move.asker?]
    obtain ⟨seq, command, arguments, args, hreq, hargs, -, hasks⟩ := asks_of_asker ht hasker
    rw [hm] at hasks
    cases hasks with
    | close hc => simp [Call.closes, hreq, closed?, hargs, hc]

end TraceView.Proofs.Editor
