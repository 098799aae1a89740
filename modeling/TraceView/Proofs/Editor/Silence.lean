import TraceView.Proofs.Editor.Aftermath
import TraceView.Proofs.Run.Absence

/-!
# Closed documents stay silent

Once a document is closed, whatever ends late, fires or is drawn again, nothing is written of it,
nothing is launched for it and it gets no preview, as long as no message names it. The one exception
is the result of an install that the document itself had asked for.
-/
namespace TraceView.Proofs.Editor

open TraceView TraceView.Editor TraceView.Run TraceView.Proofs.Run
open TraceView.Page (Panel Preview)

/-- The call brings a message that names the document. -/
def Call.names (c : Call) (d : DocumentId) : Bool :=
  (c.request?.bind fun r => document? r.2.1 r.2.2) = some d

/-- The call asks for an install on behalf of the document. -/
def Call.installs (c : Call) (d : DocumentId) : Bool :=
  c.request?.any fun r => r.2.1 = "install" && (named? r.2.2).map (·.document) = some d

/-- What the process was for whose end a call brings. -/
def Call.ends? (c : Call) : Option LaunchTag :=
  match c.input with
  | .ended completion => some completion.tag
  | _ => none

/-- What processes were started for. -/
def begun (s : Server) : List LaunchTag :=
  s.scheduler.events.filterMap launchedTag?

/-- No message of the calls names the document, and no process ends that was not started. -/
def Apart (d : DocumentId) : Server → List Call → Prop
  | _, [] => True
  | s, c :: rest => c.names d = false ∧ (∀ tag ∈ c.ends?, tag ∈ begun s) ∧ Apart d (c.apply s) rest

/-- The document that an event is about. -/
def eventDocument? (m : Message) : Option DocumentId :=
  match m.content with
  | .event _ (some body) => body.field? "document" >>= asString?
  | _ => none

/-- One of the calls asked on behalf of the document for an install, which was started. -/
def AskedInstall (start : Server) (calls : List Call) (d : DocumentId) (interpreter : Path) :
    Prop :=
  ∃ before c later, calls = before ++ c :: later ∧ c.installs d = true ∧
    .install interpreter d ∈ (c.did (serve start before)).filterMap launchedTag?

/-- A call does nothing about a document, unless it brings the end of an install that the document
asked for in an earlier call: then it says how that install ended. -/
structure Silent (start : Server) (earlier : List Call) (s : Server) (c : Call) (d : DocumentId) :
    Prop where
  unseen : Keyed.get? (c.apply s).previews d = none
  unstarted : ∀ e ∈ c.did s, ∀ tag, TraceView.Proofs.Run.asked? e = some tag →
    servedBy tag ≠ some d
  unsaid : ∀ m ∈ wrote s (c.apply s), eventDocument? m = some d →
    ∃ interpreter outcome, c.input = .ended ⟨.install interpreter d, outcome⟩ ∧
      m.content = .event "installResult" (some (.ofFields [("document", .string d),
        ("interpreter", .string interpreter), ("success", .bool outcome.success),
        ("output", .string outcome.combined)])) ∧
      AskedInstall start earlier d interpreter

instance decidableApart (d : DocumentId) :
    (s : Server) → (calls : List Call) → Decidable (Apart d s calls)
  | _, [] => inferInstanceAs (Decidable True)
  | s, c :: rest =>
    have := decidableApart d (c.apply s) rest
    inferInstanceAs (Decidable (_ ∧ _ ∧ _))

variable {s : Server} {c : Call} {d : DocumentId} {acts : List Act} {site : Site} {t : Turn}

theorem not_asker (hs : Ready s) (hn : c.names d = false) (h : c.turn? s = some t) :
    t.move.asker? ≠ some d := by
  intro hd
  obtain ⟨seq, command, arguments, args, hreq, -, hdocument, hasks⟩ := asks_of_asker h hd
  rw [Call.names, hreq, Option.bind_some, hdocument, ← hasks.asker hs.formed, hd] at hn
  simp at hn

/-- A turn that asks for an install comes of a request for it. -/
theorem installs_of_move (h : c.turn? s = some t) (hm : t.move = .install d) :
    c.installs d = true := by
  have hasker : t.move.asker? = some d := by rw [hm, Move.asker?]
  obtain ⟨seq, command, arguments, args, hreq, hargs, -, hasks⟩ := asks_of_asker h hasker
  rw [hm] at hasks
  cases hasks with
  | install hc => simp [Call.installs, hreq, hargs, hc]

theorem names_of_installs (h : c.installs d = true) : c.names d = true ∧ c.closes d = false := by
  rw [Call.installs] at h
  cases hreq : c.request? with
  | none =>
    rw [hreq] at h
    cases h
  | some r =>
    rw [hreq, Option.any_some, Bool.and_eq_true, decide_eq_true_eq, decide_eq_true_eq] at h
    obtain ⟨hc, hd⟩ := h
    rw [Call.names, Call.closes, hreq, Option.bind_some, Option.bind_some, hc, document?, hd]
    exact ⟨decide_eq_true rfl, rfl⟩

theorem begun_apply (hs : Ready s) (hc : c.Unbroken) :
    begun (c.apply s) = begun s ++ (c.did s).filterMap launchedTag? := by
  rw [begun, (hs.did hc).1, List.filterMap_append, begun]

/-- An install that a call starts it was asked for. -/
theorem installs_of_began (hs : Ready s) (hc : c.Unbroken) {p : Path}
    (h : .install p d ∈ (c.did s).filterMap launchedTag?) : c.installs d = true := by
  have hdid := (hs.did hc).2
  rw [← filterMap_effects fun _ => rfl] at h
  cases ht : c.turn? s with
  | none =>
    rw [hdid, ht] at h
    cases h
  | some t =>
    rw [hdid, ht, filterMap_effects fun _ => rfl] at h
    obtain ⟨l, hl⟩ := turn_unfolds (hs.found c) t
    exact installs_of_move ht (hl.install_move (hs.found c) h)

theorem askedInstall_of_begun {start : Server} (hs : Ready start) {calls : List Call}
    (hcalls : ∀ c ∈ calls, c.Unbroken) {p : Path} (h : .install p d ∈ begun (serve start calls)) :
    .install p d ∈ begun start ∨ AskedInstall start calls d p := by
  induction calls using List.reverseRecOn with
  | nil => exact .inl h
  | append_singleton past c ih =>
    have hpast : ∀ c ∈ past, c.Unbroken := fun c hc => hcalls c (List.mem_append_left _ hc)
    have hc := hcalls c (List.mem_append_right _ (List.mem_singleton_self c))
    have hready := ready_serve hpast hs
    rw [serve_append, serve_cons, serve_nil, begun_apply hready hc] at h
    rcases List.mem_append.mp h with h | h
    · refine (ih hpast h).imp_right ?_
      rintro ⟨before, u, later, rfl, hu⟩
      exact ⟨before, u, later ++ [c], by simp, hu⟩
    · exact .inr ⟨past, c, [], rfl, installs_of_began hready hc h, h⟩

/-- The act gives the document a preview. -/
def Act.makes (d : DocumentId) : Act → Bool
  | .land id | .show id _ => id = d
  | _ => false

theorem unseen_apply (site : Site) (hs : Keyed.get? s.previews d = none) {a : Act}
    (ha : a.makes d = false) : Keyed.get? (a.apply site s).previews d = none := by
  have hput : ∀ {id p}, id ≠ d → Keyed.get? (withPreview s id p).previews d = none :=
    fun hne => (get?_withPreview ..).trans ((if_neg hne).trans hs)
  have hchanged : ∀ id f, Keyed.get? (changed s id f).previews d = none := by
    intro id f
    rw [get?_changed, hs]
    exact ite_self none
  cases a with
  | draw id => rwa [Act.apply, previews_drawn]
  | land id =>
    rw [Act.apply, landed]
    split
    · exact hput (by simpa [Act.makes] using ha)
    · exact hs
  | drop id =>
    rw [Act.apply, Keyed.get?_erase, hs]
    exact ite_self none
  | scroll id line => exact hchanged id _
  | place id placement =>
    rw [Act.apply, previews_drawn]
    exact hchanged id _
  | «show» id panel =>
    rw [Act.apply, previews_drawn]
    exact hput (by simpa [Act.makes] using ha)
  | toggle which value => rwa [Act.apply, previews_foldl_drawn]
  | note | turn | take | say | reply => exact hs

theorem eventDocument_page (n : Nat) (id : DocumentId) (html : String) :
    eventDocument? ⟨n, "event", .event "render" (some (.ofFields (pageBody id html)))⟩ = some id := by
  simp only [eventDocument?, document_page]
  rfl

theorem eventDocument_response (n requestSeq : Nat) (command : String)
    (answer : Except String (Option Json)) :
    eventDocument? ⟨n, "response", response requestSeq command answer⟩ = none := by
  cases answer <;> rfl

/-- Of a document without a preview nothing is written but what is said. -/
theorem unseen_perform (site : Site) (hs : Keyed.get? s.previews d = none)
    (hacts : ∀ a ∈ acts, a.makes d = false) :
    Keyed.get? (perform site s acts).previews d = none ∧
      ∀ m ∈ wrote s (perform site s acts), eventDocument? m = some d →
        ∃ x ∈ acts.filterMap Act.said?,
          m.content = .event x.1.name (some (.ofFields x.2)) := by
  induction acts generalizing s with
  | nil =>
    rw [perform_nil, wrote_of_same rfl]
    exact ⟨hs, nofun⟩
  | cons a rest ih =>
    have hone := unseen_apply site hs (hacts a List.mem_cons_self)
    obtain ⟨hnone, hrest⟩ := ih hone fun a ha => hacts a (List.mem_cons_of_mem _ ha)
    refine ⟨hnone, fun m hm hd => ?_⟩
    rw [perform_cons, (extends_apply site s a).wrote_trans (extends_perform ..)] at hm
    have hmem : ∀ x ∈ a.said?.toList ++ rest.filterMap Act.said?,
        x ∈ (a :: rest).filterMap Act.said? := by
      intro x hx
      cases ha : a.said? with
      | none => simpa [ha] using hx
      | some y => simpa [ha] using hx
    rcases List.mem_append.mp hm with hm | hm
    · have hwrites := writes_apply site s a
      generalize wrote s (a.apply site s) = messages at hwrites hm
      cases hwrites with
      | said n topic body =>
        cases List.mem_singleton.mp hm
        exact ⟨(topic, body), hmem _ List.mem_cons_self, rfl⟩
      | replied =>
        cases List.mem_singleton.mp hm
        rw [eventDocument_response] at hd
        cases hd
      | drew ha hpages =>
        obtain ⟨n, id, html, hseen, rfl⟩ := hpages m hm
        rw [eventDocument_page] at hd
        cases hd
        rw [hone] at hseen
        cases hseen
    · obtain ⟨x, hx, hcontent⟩ := hrest m hm hd
      exact ⟨x, hmem x (List.mem_append_right _ hx), hcontent⟩

/-- A panel is put before the document that a notice is for. -/
theorem addressee_of_panel {n : Notice} {id : DocumentId} {panel : Panel}
    (h : noticePanel? n = some (id, panel)) : addressee n = id := by
  cases n <;> cases h <;> rfl

theorem flushActs_makes {ns : List Notice}
    (h : ∀ n ∈ ns, addressee n = d → noticePanel? n = none) :
    ∀ a ∈ flushActs ns, a.makes d = false := by
  refine List.forall_mem_cons.mpr ⟨rfl, fun a ha => ?_⟩
  obtain ⟨n, hn, ha⟩ := List.mem_flatMap.mp ha
  rcases List.mem_append.mp ha with ha | ha
  · obtain ⟨⟨id, panel⟩, hpanel, rfl⟩ := List.mem_map.mp ha
    have hpanel : noticePanel? n = some (id, panel) := Option.mem_toList.mp hpanel
    refine decide_eq_false fun he : id = d => ?_
    rw [h n hn ((addressee_of_panel hpanel).trans he)] at hpanel
    cases hpanel
  · cases List.mem_singleton.mp ha
    rfl

/-- A call that does not name a document gives it no preview, unless a notice does. -/
theorem Performs.makes {goesOn : Bool} (h : Performs c s goesOn acts) (hn : c.names d = false)
    (htold : ∀ n ∈ c.told s, addressee n = d → noticePanel? n = none) :
    ∀ a ∈ acts, a.makes d = false := by
  have hflush := flushActs_makes htold
  cases h with
  | ignored | goodbye => simp [Act.makes]
  | passed => exact List.forall_mem_cons.mpr ⟨rfl, hflush⟩
  | @answered seq command arguments answer acts hreq hhandled =>
    have hother : ∀ {id}, document? command arguments = some id → decide (id = d) = false := by
      intro id hid
      rw [Call.names, hreq, Option.bind_some, hid] at hn
      simpa using hn
    have hacts : ∀ a ∈ acts, a.makes d = false := by
      cases hhandled with
      | landed _ _ hid | landedRun _ _ hid =>
        exact List.forall_mem_cons.mpr ⟨hother hid, by simp [Act.makes]⟩
      | _ => simp [Act.makes]
    refine List.forall_mem_append.mpr ⟨List.forall_mem_cons.mpr ⟨rfl, hacts⟩, ?_⟩
    exact List.forall_mem_cons.mpr ⟨rfl, hflush⟩

theorem eventDocument_notice (n : Notice) (seq : Nat) (kind name : String) :
    eventDocument? ⟨seq, kind, .event name (some (.ofFields (noticeEvent n).2))⟩ =
      some (addressee n) := by
  have hfield : (Json.ofFields (noticeEvent n).2).field? "document" =
      some (.string (addressee n)) := by
    cases n <;> simp [Json.field?, Json.ofFields, noticeEvent, addressee, Keyed.ofList,
      Keyed.get?_insert]
  simp only [eventDocument?, hfield]
  rfl

theorem eventDocument_scroll (id : DocumentId) (line seq : Nat) (kind name : String) :
    eventDocument? ⟨seq, kind, .event name (some (.ofFields (scrollEvent id line).2))⟩ =
      some id := by
  have hfield : (Json.ofFields (scrollEvent id line).2).field? "document" = some (.string id) := by
    simp [Json.field?, Json.ofFields, scrollEvent, Keyed.ofList, Keyed.get?_insert]
  simp only [eventDocument?, hfield]
  rfl

theorem names_of_scrolls (h : c.scrolls d = true) : c.names d = true := by
  obtain ⟨⟨seq, command, arguments⟩, hreq, hscroll⟩ :=
    Option.bind_eq_some_iff.mp (of_decide_eq_true h)
  have hc : command = "visibleRange" := by
    by_contra hne
    rw [scrolled?, if_neg hne] at hscroll
    cases hscroll
  subst hc
  rw [Call.names, hreq]
  exact decide_eq_true hscroll

theorem slot?_found (c : Call) (s : Server) (d : DocumentId) :
    (c.found s).slot? d = s.scheduler.slot? d := by
  rw [Scheduler.slot?, documents_found, Scheduler.slot?]

/-- What is known of a document that was closed and not named since. -/
structure Gone (start : Server) (earlier : List Call) (d : DocumentId) (s : Server) : Prop where
  ready : Ready s
  absent : s.scheduler.slot? d = none
  unseen : Keyed.get? s.previews d = none
  installs : ∀ p, .install p d ∈ begun s → AskedInstall start earlier d p

variable {start : Server} {earlier : List Call}

/-- Only the end of an install is told of it. -/
theorem Gone.told (h : Gone start earlier d s) (hn : c.names d = false) {n : Notice}
    (hmem : n ∈ c.told s) (hd : addressee n = d) :
    ∃ p outcome, c.input = .ended ⟨.install p d, outcome⟩ ∧
      n = .installFinished d p outcome.success outcome.combined := by
  rw [Call.told] at hmem
  cases ht : c.turn? s with
  | none =>
    rw [ht] at hmem
    cases hmem
  | some t =>
    rw [ht] at hmem
    obtain ⟨l, hl⟩ := turn_unfolds (h.ready.found c) t
    have habsent : (c.found s).slot? d = none := (slot?_found c s d).trans h.absent
    obtain ⟨p, outcome, hm, rfl⟩ :=
      hl.told_absent (h.ready.found c) habsent (not_asker h.ready hn ht) hmem hd
    exact ⟨p, outcome, ended_of_move ht hm, rfl⟩

theorem Gone.absent_moved (h : Gone start earlier d s) (hn : c.names d = false) :
    (c.moved s).slot? d = none := by
  have habsent : (c.found s).slot? d = none := (slot?_found c s d).trans h.absent
  rw [Call.moved]
  cases ht : c.turn? s with
  | none => exact habsent
  | some t =>
    obtain ⟨l, hl⟩ := turn_unfolds (h.ready.found c) t
    exact (hl.absent (h.ready.found c) habsent (not_asker h.ready hn ht)).2

theorem Gone.unstarted (h : Gone start earlier d s) (hc : c.Unbroken) (hn : c.names d = false) :
    ∀ e ∈ c.did s, ∀ tag, TraceView.Proofs.Run.asked? e = some tag → servedBy tag ≠ some d := by
  intro e he tag hask
  have hdid := (h.ready.did hc).2
  have heffect : e ∈ effects (c.did s) := mem_effects.mpr ⟨he, not_logged_of_asked hask⟩
  rw [hdid] at heffect
  cases ht : c.turn? s with
  | none =>
    rw [ht] at heffect
    cases heffect
  | some t =>
    rw [ht] at heffect
    obtain ⟨l, hl⟩ := turn_unfolds (h.ready.found c) t
    have habsent : (c.found s).slot? d = none := (slot?_found c s d).trans h.absent
    exact hl.launches_absent (h.ready.found c) habsent (not_asker h.ready hn ht)
      (mem_effects.mp heffect).1 hask

/-- A call that does not name the document leaves it gone, and says of it at most how an install
ended. -/
theorem Gone.step (h : Gone start earlier d s) (hc : c.Unbroken) (hn : c.names d = false)
    (hends : ∀ tag ∈ c.ends?, tag ∈ begun s) :
    Silent start earlier s c d ∧ Gone start earlier d (c.apply s) := by
  obtain ⟨goesOn, acts, happly, hperforms⟩ := performed hc h.ready.quiet
  have hmakes : ∀ a ∈ acts, a.makes d = false := by
    refine hperforms.makes hn fun n hmem hd => ?_
    obtain ⟨p, outcome, -, rfl⟩ := h.told hn hmem hd
    rfl
  obtain ⟨hunseen, hwritten⟩ := unseen_perform c.site h.unseen hmakes
  rw [← happly] at hunseen hwritten
  have hunstarted := h.unstarted hc hn
  obtain ⟨hdrained, hready⟩ := h.ready.apply hc
  refine ⟨⟨hunseen, hunstarted, fun m hm hd => ?_⟩, hready, ?_, hunseen, fun p hp => ?_⟩
  · obtain ⟨x, hx, hcontent⟩ := hwritten m hm hd
    obtain ⟨scrolled, hscrolls, hsaid⟩ := hperforms.said
    have hdocument : eventDocument? ⟨0, "event", .event x.1.name (some (.ofFields x.2))⟩ = some d := by
      rw [← hd, eventDocument?, eventDocument?, hcontent]
    rw [hsaid] at hx
    rcases List.mem_append.mp hx with hx | hx
    · obtain ⟨id, line, hscroll, rfl⟩ := hscrolls x hx
      rw [eventDocument_scroll] at hdocument
      cases hdocument
      rw [names_of_scrolls hscroll] at hn
      cases hn
    · obtain ⟨n, hmem, rfl⟩ := List.mem_map.mp hx
      rw [eventDocument_notice] at hdocument
      obtain ⟨p, outcome, hinput, rfl⟩ := h.told hn hmem (Option.some.inj hdocument)
      refine ⟨p, outcome, hinput, hcontent, h.installs p (hends _ ?_)⟩
      rw [Call.ends?, hinput]
      rfl
  · rw [hdrained.slot?]
    exact h.absent_moved hn
  · rw [begun_apply h.ready hc] at hp
    refine h.installs p ((List.mem_append.mp hp).resolve_right fun hp => ?_)
    have hnames := (names_of_installs (installs_of_began h.ready hc hp)).1
    rw [hn] at hnames
    cases hnames

theorem Handled.closes {now : Nat} {command : String} {arguments : Option Json}
    {answer : Except String (Option Json)} (h : Handled site now s command arguments answer acts)
    (hd : closed? command arguments = some d) :
    acts = [.turn ⟨site.toSurroundings, now, .close d⟩, .drop d] := by
  cases h with
  | closed hask hclose =>
    cases hclose.symm.trans hd
    rfl
  | refused _ hno | unknown _ hno | idle _ hno | landed _ hno | landedRun _ hno | moved _ hno
  | installRefused _ hno | toggled _ hno | scrolled _ hno | placed _ hno =>
    cases hno.symm.trans hd

/-- A call that closes a document takes its preview away. -/
theorem Performs.closes {goesOn : Bool} (h : Performs c s goesOn acts) (hd : c.closes d = true) :
    ∃ line t seq command answer, acts = .note line :: .turn t :: .drop d ::
      .reply seq command answer :: flushActs (c.told s) := by
  cases h with
  | ignored hreq | passed hreq =>
    rw [Call.closes_none d hreq] at hd
    cases hd
  | goodbye hreq =>
    rw [Call.closes_request d hreq] at hd
    cases hd
  | answered hreq hhandled =>
    rw [Call.closes_request d hreq, decide_eq_true_eq] at hd
    rw [hhandled.closes hd]
    exact ⟨_, _, _, _, _, rfl⟩

/-- A document that has been closed is gone. -/
theorem gone_closed (hs : Ready start) (hstart : begun start = [])
    (hearlier : ∀ u ∈ earlier, u.Unbroken) (hc : c.Unbroken) (hd : c.closes d = true) :
    Gone start earlier d (c.apply (serve start earlier)) := by
  have hready := ready_serve hearlier hs
  obtain ⟨goesOn, acts, happly, hperforms⟩ := performed hc hready.quiet
  obtain ⟨line, t', seq, command, answer, hacts⟩ := hperforms.closes hd
  obtain ⟨t, ht, hm⟩ := (closes_iff c (serve start earlier) d).mp hd
  obtain ⟨hdrained, hready'⟩ := hready.apply hc
  obtain ⟨l, hl⟩ := turn_unfolds (hready.found c) t
  obtain ⟨habsent, htold⟩ := hl.closes (hready.found c) hm
  refine ⟨hready', ?_, ?_, fun p hp => ?_⟩
  · rw [hdrained.slot?, Call.moved, ht]
    exact habsent
  · have hquiet : c.told (serve start earlier) = [] := by
      rw [Call.told, ht]
      exact htold
    rw [happly, hacts, hquiet]
    exact (Keyed.get?_erase ..).trans (if_pos rfl)
  · rw [begun_apply hready hc] at hp
    rcases List.mem_append.mp hp with hp | hp
    · refine (askedInstall_of_begun hs hearlier hp).resolve_left ?_
      rw [hstart]
      exact List.not_mem_nil
    · have hcloses := (names_of_installs (installs_of_began hready hc hp)).2
      rw [hd] at hcloses
      cases hcloses

theorem silent_of_gone {after : List Call} (h : Gone start earlier d s)
    (hcalls : ∀ c ∈ after, c.Unbroken) (hapart : Apart d s after) :
    ∀ front c rest, after = front ++ c :: rest → Silent start earlier (serve s front) c d := by
  induction after generalizing s with
  | nil =>
    intro front c rest he
    simp at he
  | cons u after ih =>
    obtain ⟨hn, hends, hrest⟩ := hapart
    obtain ⟨hsilent, hgone⟩ := h.step (hcalls u List.mem_cons_self) hn hends
    intro front c rest he
    cases front with
    | nil =>
      cases he
      exact hsilent
    | cons v front =>
      cases he
      exact ih hgone (fun c hc => hcalls c (List.mem_cons_of_mem _ hc)) hrest front c rest rfl

/-- In every run of a new server whose messages can be written, a document that has been closed has
no preview and stays silent, whatever else is called that does not name it. -/
theorem stays_silent (availability : Availability) (options : Options) (settings : Settings)
    (earlier : List Call) (close : Call) (after : List Call) (d : DocumentId)
    (hcalls : ∀ c ∈ earlier ++ close :: after, c.Unbroken) (hclose : close.closes d = true)
    (hapart : Apart d (serve (fresh availability options settings) (earlier ++ [close])) after) :
    Keyed.get? (serve (fresh availability options settings) (earlier ++ [close])).previews d
        = none ∧
      ∀ front c rest, after = front ++ c :: rest →
        Silent (fresh availability options settings) earlier
          (serve (fresh availability options settings) (earlier ++ close :: front)) c d := by
  have hearlier : ∀ c ∈ earlier, c.Unbroken := fun c hc => hcalls c (List.mem_append_left _ hc)
  have hlater : ∀ c ∈ close :: after, c.Unbroken := fun c hc =>
    hcalls c (List.mem_append_right _ hc)
  have hgone := gone_closed (ready_fresh availability options settings) rfl hearlier
    (hlater close List.mem_cons_self) hclose
  rw [serve_append] at hapart ⊢
  refine ⟨hgone.unseen, fun front c rest he => ?_⟩
  rw [serve_append]
  exact silent_of_gone hgone (fun c hc => hlater c (List.mem_cons_of_mem _ hc)) hapart front c rest
    he

/-- A document is traced and an install asked for on its behalf; then it is closed. -/
def closing : List Call × Call :=
  let name := some (.ofFields [("document", .string "d")])
  let text := some (.ofFields [("document", .string "d"), ("text", .string "x = 1")])
  ([ asking 0 1 "open" text, asking 1 2 "save" text, asking 2 3 "install" name,
      ⟨willing, 3, .ended ⟨.probe "python", .exited (some 0) "" ""⟩⟩ ],
    asking 4 4 "close" name)

/-- Everything that was started for it ends late, another document is run and all are drawn. -/
def aftermath : List Call :=
  let text := some (.ofFields [("document", .string "e"), ("text", .string "y = 2")])
  [ asking 5 5 "save" text,
    ⟨willing, 6, .ended ⟨.trace "d" 1, .exited (some 0) "x = 1" ""⟩⟩,
    ⟨willing, 7, .ended ⟨.install "python" "d", .exited (some 0) "installed" ""⟩⟩,
    ⟨willing, 8, .ended ⟨.probe "python", .exited (some 1) "" ""⟩⟩,
    asking 9 6 "toggleDebug" (some (.ofFields [("value", .bool true)])), ⟨willing, 10, .tick⟩ ]

theorem stays_silent_aftermath :
    let start := fresh [] plainOptions .default
    (∀ c ∈ closing.1 ++ closing.2 :: aftermath, c.Unbroken) ∧ closing.2.closes "d" = true ∧
      Apart "d" (serve start (closing.1 ++ [closing.2])) aftermath ∧
      (Keyed.get? (serve start (closing.1 ++ [closing.2])).previews "d" = none ∧
        ∀ front c rest, aftermath = front ++ c :: rest →
          Silent start closing.1 (serve start (closing.1 ++ closing.2 :: front)) c "d") ∧
      ((wrote (serve start (closing.1 ++ [closing.2]))
        (serve start (closing.1 ++ closing.2 :: aftermath))).filterMap eventDocument?).count "d"
          = 1 := by
  have hcalls : ∀ c ∈ closing.1 ++ closing.2 :: aftermath, c.Unbroken := by
    simp [closing, aftermath, Call.Unbroken, asking, willing]
  have hapart : Apart "d" (serve (fresh [] plainOptions .default) (closing.1 ++ [closing.2]))
      aftermath := by decide +kernel
  exact ⟨hcalls, by decide +kernel, hapart, stays_silent [] plainOptions .default closing.1
    closing.2 aftermath "d" hcalls (by decide +kernel) hapart, by decide +kernel⟩

end TraceView.Proofs.Editor
