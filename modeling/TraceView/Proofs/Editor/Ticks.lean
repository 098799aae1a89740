import TraceView.Editor.Host
import TraceView.Proofs.Editor.Aftermath
import TraceView.Proofs.Run.Timers

/-!
# The host and its clock

A host waits for the next deadline of its server, and when it has come it lets the clock tick. The
tick removes what was due, so the host is not woken for the same deadline again: as long as nothing
else happens it is woken at most once for every timer that is pending. That is so however the host
carries out what the scheduler did, as long as it leaves its server and its clock alone.
-/
namespace TraceView.Proofs.Editor

open TraceView TraceView.Editor TraceView.Run TraceView.Proofs.Run

/-- The server once a tick is over, and what the scheduler did in it has been taken to be carried
out. -/
def ticked (site : Site) (now : Nat) (server : Server) : Server :=
  let after := ((Server.tick site now).run server).2
  { after with scheduler := after.scheduler.takeEvents.1 }

/-- For so many times a host goes on by nothing but a deadline. Of the host there is only what any
way of carrying out events leaves alone, the server and the clock; what the machine answers is free,
and the clock may be late. -/
inductive Wakes : Nat → Server × Nat → Server × Nat → Prop where
  | none (h : Server × Nat) : Wakes 0 h h
  | wake {server : Server} {clock due now n : Nat} {site : Site} {h' : Server × Nat}
      (hdue : server.scheduler.nextDeadline? = some due) (hcome : due ≤ now)
      (hflush : ∀ k, site.flush k = Option.none) (rest : Wakes n (ticked site now server, now) h') :
      Wakes (n + 1) (server, clock) h'

variable {site : Site} {server : Server} {due n : Nat}

theorem yields_tick (hflush : ∀ k, site.flush k = none) (now : Nat) (server : Server) :
    Yields (Server.tick site now) server (.ok ())
      (perform site server (.turn ⟨site.toSurroundings, now, .tick⟩ ::
        flushActs (server.scheduler.fireDue site.toSurroundings now).1.notices)) :=
  Yields.bind (a := ()) rfl (yields_flushNotices hflush _)

/-- The scheduler has fired what was due; its notices and its events are taken. -/
theorem scheduler_ticked (hflush : ∀ k, site.flush k = none) (now : Nat) (server : Server) :
    (ticked site now server).scheduler =
      { (server.scheduler.fireDue site.toSurroundings now).1 with
        notices := [], events := [] } := by
  have htick := yields_tick hflush now server
  have htaken : (ticked site now server).scheduler =
      ((Server.tick site now).run server).2.scheduler.takeEvents.1 := rfl
  rw [htaken, htick, scheduler_perform, List.foldl_cons, flushActs_moves]
  rfl

theorem formed_ticked (hf : Formed server.scheduler) (hflush : ∀ k, site.flush k = none)
    (now : Nat) : Formed (ticked site now server).scheduler := by
  rw [scheduler_ticked hflush]
  exact (formed_turn hf ⟨site.toSurroundings, now, .tick⟩).congr rfl rfl

theorem fires_ticked (hf : Formed server.scheduler) (hflush : ∀ k, site.flush k = none)
    (now : Nat) :
    Fires server.scheduler now (server.scheduler.fireDue site.toSurroundings now).2
      (ticked site now server).scheduler := by
  have hfires := fires_fireDue hf site.toSurroundings now
  rw [scheduler_ticked hflush]
  exact ⟨hfires.ascending, hfires.due_iff, hfires.timers⟩

/-- Each time a host is woken a timer is done with, and it is not woken again at the same time. -/
theorem Wakes.bounded {h h' : Server × Nat} (hw : Wakes n h h') (hf : Formed h.1.scheduler) :
    n + (ticking h'.1.scheduler).length ≤ (ticking h.1.scheduler).length ∧
      (0 < n → ∀ next, h'.1.scheduler.nextDeadline? = some next → h'.2 < next) := by
  induction hw with
  | none h =>
    rw [Nat.zero_add]
    exact ⟨Nat.le_refl _, fun hpos => absurd hpos (Nat.lt_irrefl 0)⟩
  | @wake server clock due now n site h' hdue hcome hflush rest ih =>
    replace hf : Formed server.scheduler := hf
    have hf' := formed_ticked hf hflush now
    have hfires := fires_ticked hf hflush now
    have hfewer := hfires.fewer hf hf' hdue hcome
    obtain ⟨hcount, hlater⟩ := ih hf'
    refine ⟨?_, fun _ next hnext => ?_⟩
    · dsimp only at hcount ⊢
      omega
    cases rest with
    | none => exact hfires.next hf' hnext
    | wake => exact hlater (Nat.succ_pos _) next hnext

/-- The next deadline is the earliest of those that are pending. A tick attempts the documents whose
deadline has come, each of them once and in order, it tells what came of each, and it leaves the
deadlines of all others alone; so the next deadline is later than the tick, and a host that nothing
else happens to is woken once for each pending timer at most. -/
theorem fires_when_due (s : Scheduler) (hs : Reachable s) (env : Surroundings) (now : Nat) :
    Earliest s s.nextDeadline? ∧
    (∃ deeds : List Deed,
      (∀ n, (Turn.mk env now .tick).calls (n + 4) s = some ((s.fireDue env now).1, deeds)) ∧
      deeds.filterMap Deed.attempted? = (s.fireDue env now).2) ∧
    Fires s now (s.fireDue env now).2 (s.fireDue env now).1 ∧
    (∀ next, (s.fireDue env now).1.nextDeadline? = some next → now < next) ∧
    ∀ (h h' : Server × Nat) n, h.1.scheduler = s → Wakes n h h' →
      n + (ticking h'.1.scheduler).length ≤ (ticking s).length ∧
        (0 < n → ∀ next, h'.1.scheduler.nextDeadline? = some next → h'.2 < next) := by
  have hf := hs.formed
  obtain ⟨deeds, hcalls, hbounded, -⟩ := (Turn.mk env now .tick).calls_eq s
  refine ⟨earliest_nextDeadline hf, ⟨deeds, hcalls, hbounded.attempted⟩, fires_fireDue hf env now,
    fun next hnext => ?_, fun h h' n hsame hw => ?_⟩
  · exact (fires_fireDue hf env now).next (formed_turn hf ⟨env, now, .tick⟩) hnext
  · subst hsame
    exact hw.bounded hf

/-- A host on a machine without files, as it starts to wait. -/
def asleep (s : Scheduler) : Server × Nat := (.new s .default, 0)

/-- The same host, woken in time. -/
def awake (s : Scheduler) (due : Nat) : Server × Nat :=
  (ticked (Host.siteOf ⟨[], "/", []⟩) due (asleep s).1, due)

theorem scheduler_asleep (s : Scheduler) : (asleep s).1.scheduler = s := rfl

theorem wakes_asleep {s : Scheduler} (hdue : s.nextDeadline? = some due) :
    Wakes 1 (asleep s) (awake s due) :=
  .wake ((congrArg _ (scheduler_asleep s)).trans hdue) (Nat.le_refl due) (fun _ => rfl) (.none _)

/-- Of two timers one has come; the host is woken for it, and then waits for the other. -/
theorem fires_when_due_oneOfTwo :
    Reachable (play (.new [] plainOptions) editedTwo) ∧
      ((play (.new [] plainOptions) editedTwo).fireDue obliging 300).2 =
        [("d", .awaitingAvailability)] ∧
      ((play (.new [] plainOptions) editedTwo).fireDue obliging 300).1.nextDeadline? = some 301 ∧
      300 < 301 ∧
      Wakes 1 (asleep (play (.new [] plainOptions) editedTwo))
        (awake (play (.new [] plainOptions) editedTwo) 300) ∧
      1 + (ticking (awake (play (.new [] plainOptions) editedTwo) 300).1.scheduler).length ≤
        (ticking (play (.new [] plainOptions) editedTwo)).length :=
  have hs : Reachable (play (.new [] plainOptions) editedTwo) := (Reachable.new _ _).play _
  have hnext : ((play (.new [] plainOptions) editedTwo).fireDue obliging 300).1.nextDeadline? =
      some 301 := by decide +kernel
  have hw : Wakes 1 (asleep (play (.new [] plainOptions) editedTwo))
      (awake (play (.new [] plainOptions) editedTwo) 300) := wakes_asleep (by decide +kernel)
  have hfires := fires_when_due _ hs obliging 300
  ⟨hs, by decide +kernel, hnext, hfires.2.2.2.1 301 hnext, hw,
    (hfires.2.2.2.2 _ _ 1 (scheduler_asleep _) hw).1⟩

variable {h mid h' : Host} {time limit : Nat}

/-- Carrying out an event is a matter of the machine and the children. -/
theorem apply_keeps (h : Host) (e : Event) :
    (h.apply e).server = h.server ∧ (h.apply e).clock = h.clock := by
  cases e with
  | launched process spec tag =>
    rw [Host.apply, Host.addChild]
    cases h.machine.run spec <;> exact ⟨rfl, rfl⟩
  | killed process =>
    rw [Host.apply, Host.killChild]
    split
    · exact ⟨rfl, rfl⟩
    · split <;> exact ⟨rfl, rfl⟩
  | scratchMade | copyWritten | scratchRemoved | refused | logged => simp [Host.apply]

theorem foldl_apply_keeps (es : List Event) (h : Host) :
    (es.foldl Host.apply h).server = h.server ∧ (es.foldl Host.apply h).clock = h.clock := by
  induction es generalizing h with
  | nil => exact ⟨rfl, rfl⟩
  | cons e es ih =>
    obtain ⟨hserver, hclock⟩ := ih (h.apply e)
    exact ⟨hserver.trans (apply_keeps h e).1, hclock.trans (apply_keeps h e).2⟩

/-- It is a deadline of the scheduler that the host waits for. -/
theorem nextDeadline_of_next (hn : h.next? = some (time, .deadline)) :
    h.server.scheduler.nextDeadline? = some time := by
  unfold Host.next? at hn
  split at hn
  · cases hn
  · split at hn
    · cases hn
    · next due hdue hchild =>
      cases hn
      exact hdue
    · cases hn
    · next due c hdue hchild =>
      split at hn <;> cases hn
      exact hdue

/-- A host goes on like this, for so many times, if deadlines are all it is woken by. -/
inductive Advances : Nat → Host → Host → Prop where
  | none (h : Host) : Advances 0 h h
  | wake {h mid h' : Host} {time limit n : Nat} (hn : h.next? = some (time, .deadline))
      (hadvance : h.advance? limit = some mid) (rest : Advances n mid h') : Advances (n + 1) h h'

/-- When the deadline has come the clock ticks, and nothing else happens to server and clock. -/
theorem ticked_of_advance (hn : h.next? = some (time, .deadline))
    (hadvance : h.advance? limit = some mid) :
    (mid.server, mid.clock) =
      (ticked h.site (max h.clock time) h.server, max h.clock time) := by
  rw [Host.advance?, hn] at hadvance
  dsimp only at hadvance
  split at hadvance
  · cases hadvance
  · cases hadvance
    obtain ⟨hserver, hclock⟩ := foldl_apply_keeps
      ((Server.tick h.site (max h.clock time)).run h.server).2.scheduler.takeEvents.2
      { h with
        clock := max h.clock time
        server := ticked h.site (max h.clock time) h.server }
    exact Prod.ext hserver hclock

theorem Advances.wakes (ha : Advances n h h') :
    Wakes n (h.server, h.clock) (h'.server, h'.clock) := by
  induction ha with
  | none h => exact .none _
  | @wake h mid h' time limit n hn hadvance rest ih =>
    rw [ticked_of_advance hn hadvance] at ih
    exact .wake (nextDeadline_of_next hn) (Nat.le_max_right ..) (fun _ => rfl) ih

/-- The host that runs is woken once for each pending timer at most, and never twice at one time. -/
theorem Advances.bounded (ha : Advances n h h') (hs : Reachable h.server.scheduler) :
    n + (ticking h'.server.scheduler).length ≤ (ticking h.server.scheduler).length ∧
      (0 < n → ∀ next, h'.next? = some (next, .deadline) → h'.clock < next) := by
  obtain ⟨hcount, hlater⟩ := ha.wakes.bounded hs.formed
  exact ⟨hcount, fun hpos next hnext => hlater hpos next (nextDeadline_of_next hnext)⟩

end TraceView.Proofs.Editor
