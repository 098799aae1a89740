import TraceView.Proofs.Editor.Handler

/-!
# How a call goes

A call ends without a fault as long as its messages can be written. A request is logged, handled and
answered, and then what the scheduler has to tell is written; the end of a process and a tick move
the scheduler and are told of in the same way.
-/
namespace TraceView.Proofs.Editor

open TraceView TraceView.Editor TraceView.Run TraceView.Proofs.Run
open TraceView.Page (Panel Preview)
open TraceView.Html (DisplayFlags Toggle)

variable {s s' : Server}

/-- A turn that finds no notices tells what it leaves. -/
theorem told_eq {t : Turn} {s : Scheduler} (h : s.notices = []) :
    t.told s = (t.apply s).notices := by
  rw [Turn.told, h, List.length_nil, List.drop_zero]

/-- What a handler leaves to be told comes of the turn that it asks for. -/
theorem Handled.notices {site : Site} {now : Nat} {s : Server} {command : String}
    {arguments : Option Json} {answer : Except String (Option Json)} {acts : List Act}
    (h : Handled site now s command arguments answer acts) (hs : s.scheduler.notices = []) :
    (perform site s acts).scheduler.notices =
      match asked? s command arguments with
      | some m => (Turn.mk site.toSurroundings now m).told s.scheduler
      | none => [] := by
  rw [scheduler_perform]
  cases h with
  | refused hask | unknown hask | idle hask | landed hask | toggled hask | scrolled hask
  | placed hask =>
    rw [hask]
    exact hs
  | landedRun hask | moved hask | installRefused hask | closed hask =>
    rw [hask]
    change _ = Turn.told _ _
    rw [told_eq hs]
    rfl

/-- How a call may go, and whether the server is to be called again. -/
inductive Performs (c : Call) (s : Server) : Bool → List Act → Prop
  | ignored {line : Log.Line} : c.request? = none → c.turn? s = none →
      Performs c s true [.note line]
  | goodbye {seq : Nat} {arguments : Option Json} :
      c.request? = some (seq, "disconnect", arguments) → c.turn? s = none →
      Performs c s false [.note (requestLine seq "disconnect"), .reply seq "disconnect" (.ok none)]
  | answered {seq : Nat} {command : String} {arguments : Option Json}
      {answer : Except String (Option Json)} {acts : List Act} :
      c.request? = some (seq, command, arguments) →
      Handled c.site c.now ((Act.note (requestLine seq command)).apply c.site s) command arguments
        answer acts →
      Performs c s true (.note (requestLine seq command) :: acts ++
        .reply seq command answer :: flushActs (c.told s))
  | passed {t : Turn} : c.request? = none → c.turn? s = some t →
      Performs c s true (.turn t :: flushActs (c.told s))

theorem yields_attempt {h : Server.Handler} {answer : Except String (Option Json)}
    (hyields : Yields h s answer s') :
    Yields (Server.attempt h) s (.ok answer) s' := by
  change (Except.ok (h.run s).1, (h.run s).2) = _
  rw [hyields]

theorem yields_respondTo {site : Site} (hsite : ∀ n, site.flush n = none) (seq : Nat)
    (command : String) (answer : Except String (Option Json)) (s : Server) :
    Yields (Server.respondTo site seq command answer) s (.ok ())
      ((Act.reply seq command answer).apply site s) := by
  cases answer with
  | ok body => exact yields_send hsite _ _ s
  | error message => exact yields_send hsite _ _ s

section Calls

variable {site : Site} (hsite : ∀ n, site.flush n = none) (now : Nat)
include hsite

theorem yields_goodbye (seq : Nat) (kind : String) (arguments : Option Json) :
    Yields (Server.handleMessage site ⟨seq, kind, .request "disconnect" arguments⟩ now) s
      (.ok false) (perform site s
        [.note (requestLine seq "disconnect"), .reply seq "disconnect" (.ok none)]) :=
  Yields.bind (a := ()) rfl ((yields_respondTo hsite seq "disconnect" (.ok none) _).bind
    (.pure false _))

theorem yields_answered {command : String} (hne : command ≠ "disconnect") (seq : Nat)
    (kind : String) (arguments : Option Json) :
    ∃ answer acts,
      Yields (Server.handleMessage site ⟨seq, kind, .request command arguments⟩ now) s (.ok true)
        (perform site s (.note (requestLine seq command) :: acts ++ .reply seq command answer ::
          flushActs (perform site ((Act.note (requestLine seq command)).apply site s)
            acts).scheduler.notices)) ∧
      Handled site now ((Act.note (requestLine seq command)).apply site s) command arguments
        answer acts := by
  obtain ⟨answer, acts, hyields, hhandled⟩ := handles_handler hsite now
    ((Act.note (requestLine seq command)).apply site s) arguments command
  refine ⟨answer, acts, Yields.bind (a := ()) rfl ?_, hhandled⟩
  rw [if_neg hne, perform_append]
  exact (yields_attempt hyields).bind ((yields_respondTo hsite seq command answer _).bind
    (Yields.bind (yields_flushNotices hsite _) (.pure true _)))

end Calls

/-- What is to be told after a request is what its handler leaves. -/
theorem told_answered {c : Call} {seq : Nat} {command : String} {arguments : Option Json}
    {answer : Except String (Option Json)} {acts : List Act} (hs : s.scheduler.notices = [])
    (hc : c.request? = some (seq, command, arguments))
    (h : Handled c.site c.now ((Act.note (requestLine seq command)).apply c.site s) command
      arguments answer acts) :
    (perform c.site ((Act.note (requestLine seq command)).apply c.site s) acts).scheduler.notices
      = c.told s := by
  obtain ⟨site, now, input⟩ := c
  cases input with
  | message m =>
    have hask : asked? ((Act.note (requestLine seq command)).apply site s) command arguments
        = asked? s command arguments := rfl
    have hturn : Call.turn? ⟨site, now, .message m⟩ s =
        (asked? s command arguments).map fun m => ⟨site.toSurroundings, now, m⟩ := by
      simp only [Call.turn?, hc, Option.bind_some]
    rw [h.notices hs, Call.told, hturn, Call.found, hc, hask]
    cases asked? s command arguments <;> rfl
  | ended | tick => cases hc

/-- A call that finds no notices goes in one of the ways, without a fault. -/
theorem performs {c : Call} (hc : c.Unbroken) (hs : s.scheduler.notices = []) :
    ∃ goesOn acts, c.run s = (.ok goesOn, perform c.site s acts) ∧ Performs c s goesOn acts := by
  obtain ⟨site, now, input⟩ := c
  cases input with
  | message m =>
    obtain ⟨seq, kind, content⟩ := m
    cases content with
    | request command arguments =>
      by_cases hbye : command = "disconnect"
      · subst hbye
        exact ⟨false, _, yields_goodbye hc now seq kind arguments, .goodbye rfl rfl⟩
      · obtain ⟨answer, acts, hyields, hhandled⟩ :=
          yields_answered (s := s) hc now hbye seq kind arguments
        refine ⟨true, _, ?_, .answered rfl hhandled⟩
        rw [← told_answered hs rfl hhandled]
        exact hyields
    | response requestSeq success command message body => exact ⟨true, _, rfl, .ignored rfl rfl⟩
    | event name body => exact ⟨true, _, rfl, .ignored rfl rfl⟩
  | ended completion =>
    have htold : Call.told ⟨site, now, .ended completion⟩ s =
        (s.scheduler.complete site.toSurroundings completion).notices := told_eq hs
    refine ⟨true, _, ?_, .passed rfl rfl⟩
    rw [htold]
    exact Yields.bind (Yields.bind (a := ()) rfl (yields_flushNotices hc _)) (.pure true _)
  | tick =>
    have htold : Call.told ⟨site, now, .tick⟩ s =
        (s.scheduler.fireDue site.toSurroundings now).1.notices := told_eq hs
    refine ⟨true, _, ?_, .passed rfl rfl⟩
    rw [htold]
    exact Yields.bind (Yields.bind (a := ()) rfl (yields_flushNotices hc _)) (.pure true _)

/-- So what a call leaves is what its acts do. -/
theorem performed {c : Call} (hc : c.Unbroken) (hs : s.scheduler.notices = []) :
    ∃ goesOn acts, c.apply s = perform c.site s acts ∧ Performs c s goesOn acts := by
  obtain ⟨goesOn, acts, hrun, hperforms⟩ := performs hc hs
  exact ⟨goesOn, acts, congrArg Prod.snd hrun, hperforms⟩

end TraceView.Proofs.Editor
