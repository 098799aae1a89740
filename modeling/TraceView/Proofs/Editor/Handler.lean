import TraceView.Proofs.Editor.Act

/-!
# How a handler ends

Each request is handled by a short list of acts and answered. The lists are given by cases, together
with what the request asked of the scheduler; whatever else holds of handlers is read off them.
-/
namespace TraceView.Proofs.Editor

open TraceView TraceView.Editor TraceView.Run TraceView.Proofs.Run
open TraceView.Page (Panel Preview)
open TraceView.Html (DisplayFlags Toggle)

/-- The move ends with the result, in the state. -/
def Yields {ε α : Type} (m : Server.Move ε α) (s : Server) (r : Except ε α) (s' : Server) :
    Prop :=
  m.run s = (r, s')

variable {ε α β : Type} {m : Server.Move ε α} {f : α → Server.Move ε β} {s s' s'' : Server} {a : α}

theorem Yields.bind {r : Except ε β} (h : Yields m s (.ok a) s') (h' : Yields (f a) s' r s'') :
    Yields (m >>= f) s r s'' := by
  rw [Yields, ExceptT.run_bind]
  simp only [Bind.bind, StateT.bind]
  rw [h]
  exact h'

theorem Yields.fail {e : ε} (h : Yields m s (.error e) s') : Yields (m >>= f) s (.error e) s' := by
  rw [Yields, ExceptT.run_bind]
  simp only [Bind.bind, StateT.bind]
  rw [h]
  rfl

theorem Yields.pure (a : α) (s : Server) : Yields (Pure.pure a : Server.Move ε α) s (.ok a) s := rfl

theorem Yields.get (s : Server) : Yields (get : Server.Move ε Server) s (.ok s) s := rfl

theorem Yields.modify (f : Server → Server) (s : Server) :
    Yields (modify f : Server.Move ε Unit) s (.ok ()) (f s) := rfl

theorem Yields.throw (e : ε) (s : Server) :
    Yields (throw e : Server.Move ε α) s (.error e) s := rfl

/-- The panel that a notice puts before a document. -/
def noticePanel? : Notice → Option (DocumentId × Panel)
  | .delivered id _ d => some (id, Server.deliveryPanel d)
  | .installPrompt id _ message => some (id, .installPrompt message)
  | .runStarted .. | .installFinished .. => none

/-- The event that a notice is written as. -/
def noticeEvent : Notice → Topic × List (String × Json)
  | .runStarted id token =>
    (.status, [("document", .string id), ("running", .bool true), ("token", .nat token),
      ("text", .string Server.running)])
  | .delivered id _ d =>
    (.status, [("document", .string id), ("running", .bool false),
      ("kind", .string (Server.kindText d.kind)), ("text", .string (Server.statusText d))])
  | .installPrompt id interpreter message =>
    (.installPrompt, [("document", .string id), ("interpreter", .string interpreter),
      ("message", .string message)])
  | .installFinished id interpreter success output =>
    (.installResult, [("document", .string id), ("interpreter", .string interpreter),
      ("success", .bool success), ("output", .string output)])

def noticeActs (n : Notice) : List Act :=
  (noticePanel? n).toList.map (fun x => .show x.1 x.2) ++ [.say (noticeEvent n).1 (noticeEvent n).2]

/-- The acts by which notices are told. -/
def flushActs (ns : List Notice) : List Act := .take :: ns.flatMap noticeActs

/-- The act may belong to the telling of notices. -/
def Act.tells : Act → Bool
  | .take | .show .. | .say .. => true
  | _ => false

theorem noticeActs_tell (n : Notice) : ∀ a ∈ noticeActs n, a.tells = true := by
  cases n <;> simp [noticeActs, noticePanel?, Act.tells]

theorem flushActs_tell (ns : List Notice) : ∀ a ∈ flushActs ns, a.tells = true := by
  refine List.forall_mem_cons.mpr ⟨rfl, fun a ha => ?_⟩
  obtain ⟨n, -, hn⟩ := List.mem_flatMap.mp ha
  exact noticeActs_tell n a hn

section Writing

variable {site : Site} (hsite : ∀ n, site.flush n = none)
include hsite

theorem yields_send (kind : String) (content : Content) (s : Server) :
    Yields (Server.send site kind content) s (.ok ()) (posted s kind content) := by
  unfold Server.send
  refine (Yields.get s).bind (Yields.bind (a := PUnit.unit) rfl ?_)
  rw [hsite]
  exact .pure () _

theorem yields_sendEvent (name : String) (body : List (String × Json)) (s : Server) :
    Yields (Server.sendEvent site name body) s (.ok ()) (spoken s name body) :=
  yields_send hsite "event" _ s

theorem yields_render (id : DocumentId) (s : Server) :
    Yields (Server.render site id) s (.ok ()) (drawn site s id) := by
  unfold Server.render drawn
  refine Yields.bind (a := Keyed.get? s.previews id) rfl ?_
  cases Keyed.get? s.previews id with
  | none => exact .pure () s
  | some p =>
    exact (Yields.get s).bind (Yields.bind (a := PUnit.unit) rfl (yields_sendEvent hsite _ _ _))

theorem yields_renderEach (ids : List DocumentId) (s : Server) :
    Yields (Server.renderEach site ids) s (.ok ()) (ids.foldl (drawn site) s) := by
  induction ids generalizing s with
  | nil => exact .pure () s
  | cons id rest ih => exact (yields_render hsite id s).bind (ih _)

theorem yields_showPanel (id : DocumentId) (panel : Panel) (s : Server) :
    Yields (Server.showPanel site id panel) s (.ok ()) ((Act.show id panel).apply site s) :=
  Yields.bind (a := Keyed.get? s.previews id) rfl
    (Yields.bind (a := ()) rfl (yields_render hsite id _))

theorem yields_handleNotice (n : Notice) (s : Server) :
    Yields (Server.handleNotice site n) s (.ok ()) (perform site s (noticeActs n)) := by
  cases n with
  | runStarted id token => exact yields_sendEvent hsite _ _ s
  | delivered id token d =>
    exact (yields_showPanel hsite id (Server.deliveryPanel d) s).bind (yields_sendEvent hsite _ _ _)
  | installPrompt id interpreter message =>
    exact (yields_showPanel hsite id _ s).bind (yields_sendEvent hsite _ _ _)
  | installFinished id interpreter success output => exact yields_sendEvent hsite _ _ s

theorem yields_handleNotices (ns : List Notice) (s : Server) :
    Yields (Server.handleNotices site ns) s (.ok ()) (perform site s (ns.flatMap noticeActs)) := by
  induction ns generalizing s with
  | nil => exact .pure () s
  | cons n rest ih =>
    rw [List.flatMap_cons, perform_append]
    exact (yields_handleNotice hsite n s).bind (ih _)

theorem yields_flushNotices (s : Server) :
    Yields (Server.flushNotices site) s (.ok ())
      (perform site s (flushActs s.scheduler.notices)) :=
  Yields.bind (a := s.scheduler.notices) rfl (yields_handleNotices hsite _ _)

end Writing

/-- How a handler may end: with an answer, after some acts. The scheduler is asked once at most,
and a handler that fails has written nothing and leaves nothing to be told. -/
inductive Handled (site : Site) (now : Nat) (s : Server) (command : String)
    (arguments : Option Json) : Except String (Option Json) → List Act → Prop
  | refused {message : String} :
    asked? s command arguments = none → closed? command arguments = none →
      Handled site now s command arguments (.error message) []
  | unknown {message : String} {line : Log.Line} :
    asked? s command arguments = none → closed? command arguments = none →
      Handled site now s command arguments (.error message) [.note line]
  | idle {body : Option Json} :
    asked? s command arguments = none → closed? command arguments = none →
      Handled site now s command arguments (.ok body) []
  | landed {d : DocumentId} :
    asked? s command arguments = none → closed? command arguments = none →
      document? command arguments = some d →
      Handled site now s command arguments (.ok none) [.land d, .draw d]
  | landedRun {d : DocumentId} {m : Move} :
    asked? s command arguments = some m → closed? command arguments = none →
      document? command arguments = some d →
      Handled site now s command arguments (.ok none)
        [.land d, .turn ⟨site.toSurroundings, now, m⟩]
  | moved {m : Move} {body : Option Json} :
    asked? s command arguments = some m → closed? command arguments = none →
      Handled site now s command arguments (.ok body) [.turn ⟨site.toSurroundings, now, m⟩]
  | installRefused {d : DocumentId} {message : String} :
    asked? s command arguments = some (.install d) → closed? command arguments = none →
      (s.scheduler.requestInstall site.toSurroundings d).1.notices = s.scheduler.notices →
      Handled site now s command arguments (.error message)
        [.turn ⟨site.toSurroundings, now, .install d⟩]
  | closed {d : DocumentId} :
    asked? s command arguments = some (.close d) → closed? command arguments = some d →
      Handled site now s command arguments (.ok none)
        [.turn ⟨site.toSurroundings, now, .close d⟩, .drop d]
  | toggled {which : Toggle} {value : Bool} :
    asked? s command arguments = none → closed? command arguments = none →
      Handled site now s command arguments (.ok none) [.toggle which value]
  | scrolled {d : DocumentId} {line : Nat} :
    asked? s command arguments = none → closed? command arguments = none →
      scrolled? command arguments = some d →
      Handled site now s command arguments (.ok none)
        [.scroll d line, .say .scroll [("document", .string d), ("line", .nat line)]]
  | placed {d : DocumentId} {placement : Binding.Placement} {body : Option Json} :
    asked? s command arguments = none → closed? command arguments = none →
      Handled site now s command arguments (.ok body) [.place d placement]

/-- The handler runs as one of the cases says. -/
def Handles (site : Site) (now : Nat) (s : Server) (command : String) (arguments : Option Json)
    (h : Server.Handler) : Prop :=
  ∃ answer acts, Yields h s answer (perform site s acts) ∧
    Handled site now s command arguments answer acts

theorem yields_parse {read : Json → Parsed α} {arguments : Option Json} (s : Server)
    (h : (read (arguments.getD .null)).toOption = some a) :
    Yields (Server.parse read arguments) s (.ok a) s := by
  unfold Server.parse
  cases hread : read (arguments.getD .null) with
  | ok b =>
    rw [hread] at h
    cases h
    exact .pure a s
  | error fault =>
    rw [hread] at h
    cases h

theorem fails_parse {read : Json → Parsed α} {arguments : Option Json} (s : Server)
    (h : (read (arguments.getD .null)).toOption = none) :
    ∃ message, Yields (Server.parse read arguments) s (.error message) s := by
  unfold Server.parse
  cases hread : read (arguments.getD .null) with
  | ok b =>
    rw [hread] at h
    cases h
  | error fault => exact ⟨_, .throw _ s⟩

theorem yields_snapshot {args : DocumentArgs} {snapshot : Snapshot}
    (h : snapshot? s args = some snapshot) :
    Yields (Server.snapshot args) s (.ok snapshot) s := by
  unfold snapshot? at h
  unfold Server.snapshot
  cases htext : args.text with
  | some text =>
    rw [htext] at h
    cases h
    exact .pure _ s
  | none =>
    rw [htext] at h
    refine (Yields.get s).bind ?_
    simp only at h
    rw [h]
    exact .pure _ s

theorem fails_snapshot {args : DocumentArgs} (h : snapshot? s args = none) :
    ∃ message, Yields (Server.snapshot args) s (.error message) s := by
  unfold snapshot? at h
  unfold Server.snapshot
  cases htext : args.text with
  | some text =>
    rw [htext] at h
    cases h
  | none =>
    rw [htext] at h
    have hthrow : Yields (throw ("no text known for " ++ args.document) :
        Server.Move String Snapshot) s (.error _) s := .throw _ s
    refine ⟨_, (Yields.get s).bind (r := .error ("no text known for " ++ args.document)) ?_⟩
    simp only at h
    rw [h]
    exact hthrow

theorem yields_writing {m : Server.Move Fault Unit} (h : Yields m s (.ok ()) s') :
    Yields (Server.writing m) s (.ok ()) s' := by
  have hrun : (Server.writing m).run s =
      ((m.run s).1.mapError Frame.transportText, (m.run s).2) := rfl
  rw [Yields, hrun, h]
  rfl

theorem yields_schedule (f : Scheduler → Scheduler × α) (s : Server) :
    Yields (Server.schedule f : Server.Move ε α) s (.ok (f s.scheduler).2)
      { s with scheduler := (f s.scheduler).1 } := rfl

theorem closed?_of_ne {command : String} {arguments : Option Json} (h : command ≠ "close") :
    closed? command arguments = none :=
  if_neg h

section Handlers

variable {site : Site} (hsite : ∀ n, site.flush n = none) (now : Nat) (s : Server)
  (arguments : Option Json)

theorem handles_run {command : String} {trigger : Trigger}
    (hask : asked? s command arguments = runAsked? s arguments trigger)
    (hclose : closed? command arguments = none) :
    Handles site now s command arguments (Server.run site arguments trigger now) := by
  unfold runAsked? at hask
  unfold Server.run
  cases hargs : named? arguments with
  | none =>
    obtain ⟨message, hparse⟩ := fails_parse s hargs
    rw [hargs] at hask
    exact ⟨.error message, [], hparse.fail, .refused hask hclose⟩
  | some args =>
    rw [hargs] at hask
    cases hsnap : snapshot? s args with
    | none =>
      obtain ⟨message, hfail⟩ := fails_snapshot hsnap
      simp only [Option.bind_eq_bind, Option.bind_some, hsnap, Option.bind_none] at hask
      exact ⟨.error message, [], (yields_parse s hargs).bind hfail.fail, .refused hask hclose⟩
    | some snapshot =>
      simp only [Option.bind_eq_bind, Option.bind_some, hsnap] at hask
      exact ⟨_, _, (yields_parse s hargs).bind ((yields_snapshot hsnap).bind
        ((yields_schedule _ s).bind (.pure _ _))), .moved hask hclose⟩

theorem handles_change :
    Handles site now s "change" arguments (Server.handleChange site arguments now) := by
  unfold Server.handleChange
  by_cases hsave : s.settings.whenToExecute = .onSave
  · refine ⟨.ok (some (.ofFields [("decision", .string "ignored")])), [],
      (Yields.get s).bind ?_, .idle (if_pos hsave) rfl⟩
    rw [if_pos hsave]
    exact .pure _ s
  · have hrun : Handles site now s "change" arguments (Server.run site arguments .change now) :=
      handles_run now s arguments (if_neg hsave) (closed?_of_ne (by decide))
    obtain ⟨answer, acts, hyields, hhandled⟩ := hrun
    refine ⟨answer, acts, (Yields.get s).bind ?_, hhandled⟩
    rw [if_neg hsave]
    exact hyields

theorem handles_close :
    Handles site now s "close" arguments (Server.handleClose site arguments) := by
  unfold Server.handleClose
  cases hargs : named? arguments with
  | none =>
    obtain ⟨message, hparse⟩ := fails_parse s hargs
    exact ⟨.error message, [], hparse.fail, .refused (by simp [asked?, hargs])
      (by simp [closed?, hargs])⟩
  | some args =>
    exact ⟨.ok none, _, (yields_parse s hargs).bind ((yields_schedule _ s).bind
      ((Yields.modify _ _).bind (.pure _ _))), .closed (by simp [asked?, hargs])
      (by simp [closed?, hargs])⟩

theorem launch_notices {env : Surroundings} {s s' : Scheduler} {spec : LaunchSpec}
    {tag : LaunchTag} {r : Except LaunchFault Nat} (h : s.launch env spec tag = (s', r)) :
    s'.notices = s.notices := by
  unfold Scheduler.launch at h
  split at h <;>
  · cases h
    rfl

theorem requestInstall_notices (env : Surroundings) (s : Scheduler) (d : DocumentId) :
    (s.requestInstall env d).1.notices = s.notices := by
  unfold Scheduler.requestInstall
  cases hbegin : s.availability.beginInstall? s.interpreter with
  | none => simp only [hbegin]
  | some availability =>
    simp only [hbegin]
    split <;>
    · next hlaunch => exact (launch_notices hlaunch :)

theorem handles_install :
    Handles site now s "install" arguments (Server.handleInstall site arguments) := by
  unfold Server.handleInstall
  cases hargs : named? arguments with
  | none =>
    obtain ⟨message, hparse⟩ := fails_parse s hargs
    exact ⟨.error message, [], hparse.fail, .refused (by simp [asked?, hargs])
      (closed?_of_ne (by decide))⟩
  | some args =>
    have hask : asked? s "install" arguments = some (.install args.document) := by
      simp [asked?, hargs]
    have hschedule : Yields (Server.schedule _ : Server.Move String _) s _ _ :=
      yields_schedule (fun s => s.requestInstall site.toSurroundings args.document) s
    cases hanswer : (s.scheduler.requestInstall site.toSurroundings args.document).2 with
    | none =>
      rw [hanswer] at hschedule
      exact ⟨.ok none, _, (yields_parse s hargs).bind (hschedule.bind (.pure none _)),
        .moved hask (closed?_of_ne (by decide))⟩
    | some fault =>
      rw [hanswer] at hschedule
      exact ⟨.error fault.message, _, (yields_parse s hargs).bind (hschedule.bind (.throw _ _)),
        .installRefused hask (closed?_of_ne (by decide)) (requestInstall_notices _ _ _)⟩

theorem handles_unknown {command : String} (hask : asked? s command arguments = none)
    (hclose : closed? command arguments = none) :
    Handles site now s command arguments (Server.handleUnknown command) :=
  ⟨.error _, [.note _], Yields.bind (a := ()) rfl (.throw _ _), .unknown hask hclose⟩

/-- Whatever follows finds a preview. -/
theorem yields_land {d : DocumentId} {rest : Unit → Server.Move String α} {r : Except String α}
    (h : Yields (rest ()) (landed s d) r s') :
    Yields (do
      let p ← Server.preview? d
      if p.isNone then
        let u ← Server.setPreview d (.ofPanel .landing)
        rest u
      else rest ()) s r s' := by
  refine Yields.bind (a := Keyed.get? s.previews d) rfl ?_
  rw [landed] at h
  split
  · next hnone =>
    rw [if_pos hnone] at h
    exact Yields.bind (a := ()) rfl h
  · next hsome =>
    rw [if_neg hsome] at h
    exact h

theorem settings_landed (d : DocumentId) : (landed s d).settings = s.settings := by
  unfold landed
  split <;> rfl

section Drawing

include hsite

theorem handles_open :
    Handles site now s "open" arguments (Server.handleOpen site arguments now) := by
  unfold Server.handleOpen
  cases hargs : named? arguments with
  | none =>
    obtain ⟨message, hparse⟩ := fails_parse s hargs
    exact ⟨.error message, [], hparse.fail, .refused (by simp [asked?, hargs])
      (closed?_of_ne (by decide))⟩
  | some args =>
    have hskips := settings_landed s args.document
    have hnames : document? "open" arguments = some args.document := by simp [document?, hargs]
    by_cases hskip : (s.settings.skipLandingPage && args.text.isSome) = true
    · obtain ⟨hskip', htext⟩ := Bool.and_eq_true_iff.mp hskip
      obtain ⟨text, htext⟩ := Option.isSome_iff_exists.mp htext
      have hsnap : snapshot? (landed s args.document) args =
          some ⟨args.document, text, args.path⟩ := by simp [snapshot?, htext]
      refine ⟨.ok none, _, (yields_parse s hargs).bind (yields_land s ((Yields.get _).bind ?_)),
        .landedRun (d := args.document) (m := .request ⟨args.document, text, args.path⟩ .explicit)
          (by simp [asked?, hargs, htext, hskip']) (closed?_of_ne (by decide)) hnames⟩
      rw [hskips, if_pos hskip]
      exact (yields_snapshot hsnap).bind ((yields_schedule _ _).bind (.pure _ _))
    · refine ⟨.ok none, _, (yields_parse s hargs).bind (yields_land s ((Yields.get _).bind ?_)),
        .landed (d := args.document) ?_ (closed?_of_ne (by decide)) hnames⟩
      · rw [hskips, if_neg hskip]
        exact (yields_writing (yields_render hsite _ _)).bind (.pure _ _)
      · cases htext : args.text with
        | none => simp [asked?, hargs, htext]
        | some text =>
          have hskip' : s.settings.skipLandingPage = false := by simpa [htext] using hskip
          simp [asked?, hargs, hskip']

theorem handles_toggle {command : String} (which : Toggle)
    (hask : asked? s command arguments = none) (hclose : closed? command arguments = none) :
    Handles site now s command arguments (Server.handleToggle site which arguments) := by
  unfold Server.handleToggle
  cases hargs : (ToggleArgs.read (arguments.getD .null)).toOption with
  | none =>
    obtain ⟨message, hparse⟩ := fails_parse s hargs
    exact ⟨.error message, [], hparse.fail, .refused hask hclose⟩
  | some args =>
    exact ⟨.ok none, _, (yields_parse s hargs).bind ((Yields.modify _ _).bind
      ((Yields.get _).bind ((yields_writing (yields_renderEach hsite _ _)).bind (.pure _ _)))),
      .toggled hask hclose⟩

theorem handles_visibleRange :
    Handles site now s "visibleRange" arguments (Server.handleVisibleRange site arguments) := by
  unfold Server.handleVisibleRange
  cases hargs : (VisibleRangeArgs.read (arguments.getD .null)).toOption with
  | none =>
    obtain ⟨message, hparse⟩ := fails_parse s hargs
    exact ⟨.error message, [], hparse.fail, .refused rfl (closed?_of_ne (by decide))⟩
  | some args =>
    let body : List (String × Json) :=
      [("document", .string args.document), ("line", .nat args.line)]
    have hsay : ∀ s, Yields (do
        Server.writing (Server.sendEvent site "scroll" body)
        return none : Server.Handler) s (.ok none) (spoken s "scroll" body) :=
      fun s => (yields_writing (yields_sendEvent hsite _ _ s)).bind (.pure none _)
    refine ⟨.ok none, [.scroll args.document args.line, .say .scroll body],
      (yields_parse s hargs).bind (Yields.bind (a := Keyed.get? s.previews args.document) rfl ?_),
      .scrolled rfl (closed?_of_ne (by decide)) (by simp [scrolled?, hargs])⟩
    rw [perform_cons, Act.apply, changed]
    cases hp : Keyed.get? s.previews args.document with
    | none => exact hsay s
    | some p => exact Yields.bind (a := ()) rfl (hsay _)

theorem handles_variables :
    Handles site now s "variables" arguments (Server.handleVariables site arguments) := by
  unfold Server.handleVariables
  cases hargs : (VariablesArgs.read (arguments.getD .null)).toOption with
  | none =>
    obtain ⟨message, hparse⟩ := fails_parse s hargs
    exact ⟨.error message, [], hparse.fail, .refused rfl (closed?_of_ne (by decide))⟩
  | some args =>
    cases hp : Keyed.get? s.previews args.document with
    | none =>
      exact ⟨.ok _, [], (yields_parse s hargs).bind ((Yields.get s).bind
        (Yields.bind (a := none) (by rw [← hp]; rfl) (.pure _ s))),
        .idle rfl (closed?_of_ne (by decide))⟩
    | some p =>
      let placement := Binding.Placement.place
        (((s.scheduler.latestRequest? args.document).map (·.text)).getD "") args.values
      refine ⟨.ok (some placement.toJson), [.place args.document placement], ?_,
        .placed rfl (closed?_of_ne (by decide))⟩
      rw [perform_cons, Act.apply, changed, hp]
      exact (yields_parse s hargs).bind ((Yields.get s).bind
        (Yields.bind (a := some p) (by rw [← hp]; rfl) (Yields.bind (a := ()) rfl
          ((yields_writing (yields_render hsite _ _)).bind (.pure _ _)))))

/-- Every handler ends in one of the ways. -/
theorem handles_handler (command : String) :
    Handles site now s command arguments (Server.handler site command arguments now) := by
  unfold Server.handler
  split
  · exact handles_open hsite now s arguments
  · exact handles_change now s arguments
  · exact handles_run now s arguments rfl (closed?_of_ne (by decide))
  · exact handles_run now s arguments rfl (closed?_of_ne (by decide))
  · exact handles_close now s arguments
  · exact handles_toggle hsite now s arguments .source rfl (closed?_of_ne (by decide))
  · exact handles_toggle hsite now s arguments .debug rfl (closed?_of_ne (by decide))
  · exact handles_install now s arguments
  · exact handles_visibleRange hsite now s arguments
  · exact handles_variables hsite now s arguments
  · next hopen hchange hsave hexecute hclose _ _ hinstall _ _ =>
    have hask : asked? s command arguments = none := by
      unfold asked?
      split <;> first | rfl | contradiction
    exact handles_unknown now s arguments hask (closed?_of_ne hclose)

end Drawing

end Handlers

end TraceView.Proofs.Editor
