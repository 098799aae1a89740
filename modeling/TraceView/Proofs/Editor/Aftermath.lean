import TraceView.Proofs.Editor.Asks
import TraceView.Proofs.Editor.Discipline
import TraceView.Proofs.Editor.Drawn

/-!
# What a call leaves

The scheduler after a call is the one that its turn leaves, with the notices taken and some lines
logged. What the call has written are pages of documents with a preview, at most one response, and
what the acts of the call say: where a document was scrolled to, and then the notices of the turn.
-/
namespace TraceView.Proofs.Editor

open TraceView TraceView.Editor TraceView.Run TraceView.Proofs.Run

variable {s : Server} {c : Call} {acts : List Act} {goesOn : Bool}

/-- The scheduler that the turn of a call leaves. -/
def Call.moved (c : Call) (s : Server) : Scheduler :=
  match c.turn? s with
  | some t => t.apply (c.found s)
  | none => c.found s

/-- The events of a call. -/
def Call.did (c : Call) (s : Server) : List Event :=
  (c.apply s).scheduler.events.drop s.scheduler.events.length

/-- The second scheduler is the first with its notices taken and some lines logged. -/
def Drained (x y : Scheduler) : Prop :=
  ∃ es, effects es = [] ∧ y = { extend x es with notices := [] }

/-- A server between two calls. -/
structure Ready (s : Server) : Prop where
  formed : Formed s.scheduler
  quiet : s.scheduler.notices = []

theorem drained_of_extends {x y : Scheduler} {es : List Event} (hx : x.notices = [])
    (hes : effects es = []) (h : y = extend x es) : Drained x y := by
  have hsame : { extend x es with notices := x.notices } = extend x es := rfl
  rw [hx] at hsame
  exact ⟨es, hes, h.trans hsame.symm⟩

section Drained

variable {x y : Scheduler}

theorem Drained.documents (h : Drained x y) : y.documents = x.documents := by
  obtain ⟨es, -, rfl⟩ := h
  rfl

theorem Drained.slot? (h : Drained x y) (d : DocumentId) : y.slot? d = x.slot? d := by
  rw [Scheduler.slot?, h.documents, Scheduler.slot?]

theorem Drained.notices (h : Drained x y) : y.notices = [] := by
  obtain ⟨es, -, rfl⟩ := h
  rfl

theorem Drained.formed (h : Drained x y) (hx : Formed x) : Formed y := by
  obtain ⟨es, -, rfl⟩ := h
  exact hx.congr rfl rfl

end Drained

theorem documents_found (c : Call) (s : Server) :
    (c.found s).documents = s.scheduler.documents := by
  rw [Call.found]
  split <;> rfl

theorem found_eq (c : Call) (s : Server) :
    ∃ es, effects es = [] ∧ c.found s = extend s.scheduler es := by
  rw [Call.found]
  split
  · exact ⟨[.logged _], rfl, rfl⟩
  · exact ⟨[], rfl, (extend_nil _).symm⟩

theorem Ready.found (h : Ready s) (c : Call) : Formed (c.found s) := by
  obtain ⟨es, -, he⟩ := found_eq c s
  rw [he]
  exact h.formed.congr rfl rfl

theorem Ready.moved (h : Ready s) (c : Call) : Formed (c.moved s) := by
  rw [Call.moved]
  split
  · next t ht =>
    obtain ⟨l, hl⟩ := turn_unfolds (h.found c) t
    exact (h.found c).acts hl.acts
  · exact h.found c

theorem flushActs_moves (ns : List Notice) (x : Scheduler) :
    (flushActs ns).foldl Act.moves x = { x with notices := [] } := by
  rw [flushActs, List.foldl_cons, flatMap_noticeActs_moves]
  rfl

/-- A handler moves the scheduler by the turn it asks for. -/
theorem Handled.turned {site : Site} {now : Nat} {command : String} {arguments : Option Json}
    {answer : Except String (Option Json)} (h : Handled site now s command arguments answer acts)
    (x : Scheduler) : ∃ es, effects es = [] ∧ acts.foldl Act.moves x = extend
      (match asked? s command arguments with
        | some m => (Turn.mk site.toSurroundings now m).apply x
        | none => x) es := by
  cases h with
  | unknown hask =>
    rw [hask]
    exact ⟨[.logged _], rfl, rfl⟩
  | refused hask | idle hask | landed hask | toggled hask | scrolled hask | placed hask
  | landedRun hask | moved hask | installRefused hask | closed hask =>
    rw [hask]
    exact ⟨[], rfl, (extend_nil _).symm⟩

theorem Performs.drained (h : Performs c s goesOn acts) (hs : s.scheduler.notices = []) :
    Drained (c.moved s) (perform c.site s acts).scheduler := by
  rw [scheduler_perform]
  cases h with
  | @ignored line hreq hturn =>
    have hmoved : c.moved s = s.scheduler := by simp only [Call.moved, hturn, Call.found, hreq]
    rw [hmoved]
    exact @drained_of_extends _ _ [.logged line] hs rfl rfl
  | @goodbye seq arguments hreq hturn =>
    have hmoved : c.moved s = s.scheduler.emit (.logged (requestLine seq "disconnect")) := by
      simp only [Call.moved, hturn, Call.found, hreq]
    rw [hmoved]
    exact drained_of_extends hs effects_nil (extend_nil _).symm
  | @answered seq command arguments answer acts hreq hhandled =>
    obtain ⟨es, hes, hacts⟩ := hhandled.turned (c.found s)
    have hask : asked? ((Act.note (requestLine seq command)).apply c.site s) command arguments
        = asked? s command arguments := rfl
    have hfound : c.found s = (Act.note (requestLine seq command)).moves s.scheduler := by
      simp only [Call.found, hreq, Act.moves]
    refine ⟨es, hes, ?_⟩
    rw [List.foldl_append, List.foldl_cons, List.foldl_cons, flushActs_moves, ← hfound, hacts,
      hask, Call.moved, Call.turn?_request hreq]
    cases asked? s command arguments <;> rfl
  | @passed t hreq hturn =>
    have hmoved : c.moved s = t.apply s.scheduler := by
      simp only [Call.moved, hturn, Call.found, hreq]
    rw [hmoved, List.foldl_cons, flushActs_moves]
    exact ⟨[], rfl, by rw [extend_nil]; rfl⟩

/-- Between two calls the server is ready for the next. -/
theorem Ready.apply (hs : Ready s) (hc : c.Unbroken) :
    Drained (c.moved s) (c.apply s).scheduler ∧ Ready (c.apply s) := by
  obtain ⟨goesOn, acts, happly, hperforms⟩ := performed hc hs.quiet
  rw [happly]
  have hdrained := hperforms.drained hs.quiet
  exact ⟨hdrained, hdrained.formed (hs.moved c), hdrained.notices⟩

/-- But for log lines the events of a call are those of its turn. -/
theorem Ready.did (hs : Ready s) (hc : c.Unbroken) :
    (c.apply s).scheduler.events = s.scheduler.events ++ c.did s ∧
      effects (c.did s) = match c.turn? s with
        | some t => effects (t.did (c.found s))
        | none => [] := by
  obtain ⟨es, hes, happly⟩ := (hs.apply hc).1
  obtain ⟨es', hes', hfound⟩ := found_eq c s
  have hmoved : ∃ new, (c.moved s).events = (c.found s).events ++ new ∧ effects new =
      match c.turn? s with
      | some t => effects (t.did (c.found s))
      | none => [] := by
    rw [Call.moved]
    cases c.turn? s with
    | none => exact ⟨[], (List.append_nil _).symm, rfl⟩
    | some t =>
      obtain ⟨l, hl⟩ := turn_unfolds (hs.found c) t
      obtain ⟨new, hnew, -⟩ := events_acts hl.acts
      have hdid : t.did (c.found s) = new := by rw [Turn.did, hnew, List.drop_left]
      exact ⟨new, hnew, congrArg effects hdid.symm⟩
  obtain ⟨new, hnew, heffects⟩ := hmoved
  have hevents : (c.apply s).scheduler.events = s.scheduler.events ++ (es' ++ new ++ es) := by
    rw [happly]
    change (c.moved s).events ++ es = _
    rw [hnew, hfound]
    simp only [extend, List.append_assoc]
  have hdid : c.did s = es' ++ new ++ es := by rw [Call.did, hevents, List.drop_left]
  refine ⟨hdid ▸ hevents, ?_⟩
  rw [hdid, effects_append, effects_append, hes, hes', List.append_nil, List.nil_append, heffects]

theorem serve_append (s : Server) (calls more : List Call) :
    serve s (calls ++ more) = serve (serve s calls) more :=
  List.foldl_append

theorem ready_fresh (availability : Availability) (options : Options) (settings : Settings) :
    Ready (fresh availability options settings) :=
  ⟨formed_new availability options, rfl⟩

theorem ready_serve {calls : List Call} (hcalls : ∀ c ∈ calls, c.Unbroken) (hs : Ready s) :
    Ready (serve s calls) := by
  induction calls generalizing s with
  | nil => exact hs
  | cons c rest ih =>
    exact ih (fun c hc => hcalls c (List.mem_cons_of_mem _ hc))
      (hs.apply (hcalls c List.mem_cons_self)).2

/-- What an act says besides pages and responses. -/
def Act.said? : Act → Option (Topic × List (String × Json))
  | .say topic body => some (topic, body)
  | _ => none

/-- What an act writes. -/
inductive Writes (s' : Server) : Act → List Message → Prop
  | said (n : Nat) (topic : Topic) (body : List (String × Json)) :
      Writes s' (.say topic body) [⟨n, "event", .event topic.name (some (.ofFields body))⟩]
  | replied (n requestSeq : Nat) (command : String) (answer : Except String (Option Json)) :
      Writes s' (.reply requestSeq command answer)
        [⟨n, "response", response requestSeq command answer⟩]
  | drew {a : Act} {messages : List Message} (ha : a.said? = none)
      (h : ∀ m ∈ messages, ∃ n id html, (Keyed.get? s'.previews id).isSome ∧
        m = ⟨n, "event", .event "render" (some (.ofFields (pageBody id html)))⟩) :
      Writes s' a messages

theorem pages_drawn (site : Site) (s : Server) (id : DocumentId) :
    ∀ m ∈ wrote s (drawn site s id), ∃ n id html, (Keyed.get? s.previews id).isSome ∧
      m = ⟨n, "event", .event "render" (some (.ofFields (pageBody id html)))⟩ := by
  rcases drawn_cases site s id with ⟨-, hsame⟩ | ⟨p, hp, -, hw⟩
  · rw [wrote_of_same (by rw [hsame])]
    nofun
  · rw [hw]
    intro m hm
    exact ⟨_, id, _, by rw [hp]; rfl, List.mem_singleton.mp hm⟩

theorem pages_foldl_drawn (site : Site) (ids : List DocumentId) (s : Server) :
    ∀ m ∈ wrote s (ids.foldl (drawn site) s), ∃ n id html, (Keyed.get? s.previews id).isSome ∧
      m = ⟨n, "event", .event "render" (some (.ofFields (pageBody id html)))⟩ := by
  induction ids generalizing s with
  | nil =>
    rw [wrote_of_same (by rfl)]
    nofun
  | cons id rest ih =>
    have hrest := ih (drawn site s id)
    rw [previews_drawn] at hrest
    rw [List.foldl_cons, (speaks_drawn site s id).toExtends.wrote_trans
      (speaks_foldl_drawn site rest _).toExtends]
    intro m hm
    exact (List.mem_append.mp hm).elim (pages_drawn site s id m) (hrest m)

theorem writes_apply (site : Site) (s : Server) (a : Act) :
    Writes (a.apply site s) a (wrote s (a.apply site s)) := by
  have hsame : ∀ {s'}, s'.sent = s.sent → a.said? = none → Writes s' a (wrote s s') := by
    intro s' hsent ha
    rw [wrote_of_same hsent]
    exact .drew ha nofun
  have hdrawn : ∀ {s' id}, s'.sent = s.sent → a.said? = none →
      Writes (drawn site s' id) a (wrote s (drawn site s' id)) := by
    intro s' id hsent ha
    refine .drew ha ?_
    rw [previews_drawn, wrote, ← hsent]
    exact pages_drawn site s' id
  cases a with
  | say topic body =>
    rw [Act.apply, spoken, wrote_posted]
    exact .said _ topic body
  | reply requestSeq command answer =>
    rw [Act.apply, wrote_posted]
    exact .replied _ requestSeq command answer
  | draw id => exact hdrawn rfl rfl
  | land id =>
    refine hsame ?_ rfl
    rw [Act.apply, landed]
    split <;> rfl
  | scroll id line =>
    refine hsame ?_ rfl
    rw [Act.apply, changed]
    split <;> rfl
  | place id placement =>
    refine hdrawn ?_ rfl
    rw [changed]
    split <;> rfl
  | «show» id panel => exact hdrawn rfl rfl
  | toggle which value =>
    refine .drew rfl ?_
    rw [Act.apply, previews_foldl_drawn]
    exact pages_foldl_drawn site _ { s with flags := Server.setToggle s.flags which value }
  | note | turn | take | drop => exact hsame rfl rfl

/-- What can be read off events other than pages can be read off what is said. -/
theorem filterMap_perform {β : Type} {f : Message → Option β}
    {g : Topic × List (String × Json) → Option β}
    (hsay : ∀ n topic body, f ⟨n, "event", .event topic.name (some (.ofFields body))⟩ =
      g (topic, body))
    (hreply : ∀ n requestSeq command answer,
      f ⟨n, "response", response requestSeq command answer⟩ = none)
    (hpage : ∀ n body, f ⟨n, "event", .event "render" body⟩ = none) (site : Site) (s : Server)
    (acts : List Act) :
    (wrote s (perform site s acts)).filterMap f = (acts.filterMap Act.said?).filterMap g := by
  have hone : ∀ {s' a messages}, Writes s' a messages →
      messages.filterMap f = a.said?.toList.filterMap g := by
    intro s' a messages h
    cases h with
    | said n topic body => simp [Act.said?, List.filterMap_cons, hsay]
    | replied => simp [Act.said?, hreply]
    | drew ha hm =>
      rw [ha]
      refine List.filterMap_eq_nil_iff.mpr fun m hmem => ?_
      obtain ⟨n, id, html, -, rfl⟩ := hm m hmem
      exact hpage n _
  induction acts generalizing s with
  | nil =>
    rw [wrote_of_same (by rfl)]
    rfl
  | cons a rest ih =>
    rw [perform_cons, (extends_apply site s a).wrote_trans (extends_perform ..),
      List.filterMap_append, ih, hone (writes_apply site s a)]
    cases ha : a.said? with
    | none => rw [List.filterMap_cons_none ha, Option.toList_none, List.filterMap_nil,
        List.nil_append]
    | some x => rw [List.filterMap_cons_some ha, Option.toList_some, ← List.filterMap_append,
        List.singleton_append]

/-- What is said when a document is scrolled. -/
def scrollEvent (d : DocumentId) (line : Nat) : Topic × List (String × Json) :=
  (.scroll, [("document", .string d), ("line", .nat line)])

/-- Lists of what a call says before its notices. -/
def Scrolls (c : Call) (said : List (Topic × List (String × Json))) : Prop :=
  ∀ x ∈ said, ∃ d line, c.scrolls d = true ∧ x = scrollEvent d line

theorem said_noticeActs (n : Notice) : (noticeActs n).filterMap Act.said? = [noticeEvent n] := by
  cases n <;> rfl

theorem said_flushActs (ns : List Notice) :
    (flushActs ns).filterMap Act.said? = ns.map noticeEvent := by
  rw [flushActs, List.filterMap_cons_none rfl, List.filterMap_flatMap]
  induction ns with
  | nil => rfl
  | cons n rest ih => rw [List.flatMap_cons, said_noticeActs, ih, List.map_cons,
      List.singleton_append]

/-- A call says where a document was scrolled to and then what its turn has told. -/
theorem Performs.said (h : Performs c s goesOn acts) :
    ∃ scrolled, Scrolls c scrolled ∧
      acts.filterMap Act.said? = scrolled ++ (c.told s).map noticeEvent := by
  have hnone : Scrolls c [] := nofun
  cases h with
  | ignored hreq hturn | goodbye hreq hturn =>
    have htold : c.told s = [] := by rw [Call.told, hturn]
    rw [htold]
    exact ⟨[], hnone, rfl⟩
  | passed => exact ⟨[], hnone, by rw [List.filterMap_cons_none rfl, said_flushActs]; rfl⟩
  | @answered seq command arguments answer acts hreq hhandled =>
    refine ⟨acts.filterMap Act.said?, ?_, ?_⟩
    · cases hhandled with
      | @scrolled d line hask hclose hscroll =>
        intro x hx
        refine ⟨d, line, ?_, List.mem_singleton.mp hx⟩
        rw [Call.scrolls_request d hreq, decide_eq_true hscroll]
      | _ => exact hnone
    · rw [List.filterMap_append, List.filterMap_cons_none rfl, List.filterMap_cons_none rfl,
        said_flushActs]

end TraceView.Proofs.Editor
