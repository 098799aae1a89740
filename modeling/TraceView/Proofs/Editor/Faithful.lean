import TraceView.Proofs.Editor.Discipline
import TraceView.Proofs.Editor.Shown

/-!
# What the editor shows

What was seen of a document is what the server has of it: the page before the editor is the page of
its preview, and its panel is the one of the last notice that put one before the document, so a
trace on it comes with its own grid.
-/
namespace TraceView.Proofs.Editor

open TraceView TraceView.Editor TraceView.Run TraceView.Proofs.Run
open TraceView.Page (Panel Preview)

/-- What was seen of a document: its last page since it has a preview, and the notices since it was
last closed. -/
structure Sight where
  page : Option Shown
  notices : List Notice

def Sight.after (v : Sight) (c : Call) (s : Server) (d : DocumentId) : Sight where
  page := shownAfter c.site (c.scrolls d) s (c.apply s) d v.page
  notices := (if c.closes d then [] else v.notices) ++ c.told s

/-- What is seen of a document in a run. -/
def watch (d : DocumentId) (v : Sight) (s : Server) : List Call → Sight
  | [] => v
  | c :: rest => watch d (v.after c s d) (c.apply s) rest

/-- Does the notice put a panel before the document? -/
def isShowing (d : DocumentId) : Notice → Bool
  | .delivered id .. | .installPrompt id .. => id = d
  | .runStarted .. | .installFinished .. => false

def latest? (d : DocumentId) (ns : List Notice) : Option Notice :=
  (ns.filter (isShowing d)).getLast?

/-- What was seen of a document is what the server has of it. -/
structure Faithful (s : Server) (d : DocumentId) (v : Sight) (p : Preview) : Prop where
  page : ∀ x, v.page = some x → x.Fits s.flags p
  trace : ∀ grid source trace interpreter, p.panel = .trace grid source trace interpreter →
    grid = Grid.build source trace ∧ ∃ token delivery,
      latest? d v.notices = some (.delivered d token delivery) ∧
        delivery.kind ≠ .infrastructure ∧ delivery.source = source ∧ delivery.text = trace ∧
        delivery.interpreter = interpreter

variable {s s' : Server} {site : Site} {d : DocumentId} {ns : List Notice} {acts : List Act}

def panelAt (s : Server) (d : DocumentId) : Option Panel :=
  (Keyed.get? s.previews d).map (·.panel)

/-- The panel that the last notice has put before a document. -/
def panelOf (n? : Option Notice) : Panel :=
  ((n?.bind noticePanel?).map (·.2)).getD .landing

/-- A document without a preview was shown nothing; the panel of any other is the one last shown. -/
structure Paneled (s : Server) (d : DocumentId) (ns : List Notice) : Prop where
  absent : panelAt s d = none → latest? d ns = none
  panel : ∀ panel, panelAt s d = some panel → panel = panelOf (latest? d ns)

theorem Paneled.congr {ns' : List Notice} (h : Paneled s d ns)
    (hp : panelAt s' d = panelAt s d) (hn : latest? d ns' = latest? d ns) : Paneled s' d ns' where
  absent hnone := hn.trans (h.absent (hp ▸ hnone))
  panel panel hpanel := hn ▸ h.panel panel (hp ▸ hpanel)

theorem paneled_some {panel : Panel} (hp : panelAt s d = some panel)
    (hn : panelOf (latest? d ns) = panel) : Paneled s d ns where
  absent hnone := by
    rw [hp] at hnone
    cases hnone
  panel other hother := by
    rw [hn, ← Option.some.inj (hp.symm.trans hother)]

theorem latest_append (d : DocumentId) (ns more : List Notice) :
    latest? d (ns ++ more) = (latest? d more).or (latest? d ns) := by
  rw [latest?, List.filter_append, List.getLast?_append, latest?, latest?]

theorem panelAt_withPreview (s : Server) (id d : DocumentId) (p : Preview) :
    panelAt (withPreview s id p) d = if id = d then some p.panel else panelAt s d := by
  rw [panelAt, get?_withPreview]
  split <;> rfl

theorem panelAt_drawn (site : Site) (s : Server) (id d : DocumentId) :
    panelAt (drawn site s id) d = panelAt s d := by
  rw [panelAt, previews_drawn, panelAt]

theorem panelAt_changed (s : Server) (id d : DocumentId) {f : Preview → Preview}
    (hf : ∀ p, (f p).panel = p.panel) : panelAt (changed s id f) d = panelAt s d := by
  rw [panelAt, get?_changed, panelAt]
  split
  · rw [Option.map_map]
    exact congrArg (Option.map · _) (funext hf)
  · rfl

/-- The act leaves panels to others. -/
def Act.keepsPanels : Act → Bool
  | .land _ | .drop _ | .show .. => false
  | _ => true

theorem panelAt_apply (site : Site) (s : Server) {a : Act} (h : a.keepsPanels = true)
    (d : DocumentId) : panelAt (a.apply site s) d = panelAt s d := by
  cases a with
  | draw id => exact panelAt_drawn site s id d
  | land | drop | «show» => cases h
  | scroll id line => exact panelAt_changed s id d fun _ => rfl
  | place id placement => exact (panelAt_drawn ..).trans (panelAt_changed s id d fun _ => rfl)
  | toggle which value => rw [panelAt, Act.apply, previews_foldl_drawn, panelAt]
  | _ => rfl

theorem panelAt_perform (site : Site) (s : Server) (h : ∀ a ∈ acts, a.keepsPanels = true)
    (d : DocumentId) : panelAt (perform site s acts) d = panelAt s d := by
  induction acts generalizing s with
  | nil => rfl
  | cons a acts ih =>
    rw [perform_cons, ih _ fun a ha => h a (List.mem_cons_of_mem _ ha),
      panelAt_apply site s (h a List.mem_cons_self)]

theorem panelAt_show (site : Site) (s : Server) (id d : DocumentId) (panel : Panel) :
    panelAt ((Act.show id panel).apply site s) d =
      if id = d then some panel else panelAt s d := by
  rw [Act.apply, panelAt_drawn, panelAt_withPreview]

theorem panelAt_drop (site : Site) (s : Server) (id d : DocumentId) :
    panelAt ((Act.drop id).apply site s) d = if id = d then none else panelAt s d := by
  rw [panelAt, Act.apply, Keyed.get?_erase]
  split <;> rfl

theorem Paneled.land (h : Paneled s d ns) (site : Site) (id : DocumentId) :
    Paneled ((Act.land id).apply site s) d ns := by
  rw [Act.apply, landed]
  split
  · next hnone =>
    have hland := panelAt_withPreview s id d (.ofPanel .landing)
    by_cases he : id = d
    · subst he
      have hp : panelAt s id = none := by
        rw [panelAt, Option.isNone_iff_eq_none.mp hnone, Option.map_none]
      exact paneled_some (hland.trans (if_pos rfl)) (by rw [h.absent hp]; rfl)
    · exact h.congr (hland.trans (if_neg he)) rfl
  · exact h

theorem isShowing_eq (d : DocumentId) (n : Notice) :
    isShowing d n = (noticePanel? n).any (·.1 = d) := by
  cases n <;> rfl

theorem latest_silent {n : Notice} (h : isShowing d n = false) :
    latest? d (ns ++ [n]) = latest? d ns := by
  rw [latest_append, latest?, List.filter_cons_of_neg (by simp [h])]
  rfl

theorem latest_showing {n : Notice} (h : isShowing d n = true) :
    latest? d (ns ++ [n]) = some n := by
  rw [latest_append, latest?, List.filter_cons_of_pos h]
  rfl

/-- A notice is told after its panel is shown. -/
theorem Paneled.notice (h : Paneled s d ns) (site : Site) (n : Notice) :
    Paneled (perform site s (noticeActs n)) d (ns ++ [n]) := by
  -- What is said after the panel is shown does not touch it.
  have hsay : ∀ s, panelAt (perform site s [.say (noticeEvent n).1 (noticeEvent n).2]) d
      = panelAt s d := fun s => rfl
  have hshowing := isShowing_eq d n
  rw [noticeActs, perform_append]
  cases hpanel : noticePanel? n with
  | none =>
    rw [hpanel] at hshowing
    exact h.congr (hsay s) (latest_silent hshowing)
  | some x =>
    obtain ⟨id, panel⟩ := x
    rw [hpanel, Option.any_some] at hshowing
    have hshow := (hsay _).trans (panelAt_show site s id d panel)
    by_cases he : id = d
    · refine paneled_some (hshow.trans (if_pos he)) ?_
      rw [latest_showing (hshowing.trans (decide_eq_true he)), panelOf, Option.bind_some, hpanel]
      rfl
    · exact h.congr (hshow.trans (if_neg he)) (latest_silent (hshowing.trans (decide_eq_false he)))

/-- Telling notices shows the panels that belong to them. -/
theorem Paneled.notices (h : Paneled s d ns) (site : Site) (more : List Notice) :
    Paneled (perform site s (more.flatMap noticeActs)) d (ns ++ more) := by
  induction more generalizing s ns with
  | nil => rwa [List.append_nil]
  | cons n rest ih =>
    rw [List.flatMap_cons, perform_append, List.append_cons]
    exact ih (h.notice site n)

theorem Paneled.flush (h : Paneled s d ns) (site : Site) (more : List Notice) :
    Paneled (perform site s (flushActs more)) d (ns ++ more) :=
  (h.congr (panelAt_apply site s rfl d) rfl).notices site more

/-- A handler shows nothing; it gives a preview to a document or takes it away. -/
theorem Handled.paneled {now : Nat} {command : String} {arguments : Option Json}
    {answer : Except String (Option Json)} (h : Handled site now s command arguments answer acts)
    (hp : Paneled s d ns) :
    Paneled (perform site s acts) d (if closed? command arguments = some d then [] else ns) := by
  cases h with
  | refused _ hclose | idle _ hclose =>
    rw [hclose]
    exact hp
  | unknown _ hclose | moved _ hclose | installRefused _ hclose | toggled _ hclose
  | scrolled _ hclose | placed _ hclose =>
    rw [hclose]
    exact hp.congr (panelAt_perform site s (by simp [Act.keepsPanels]) d) rfl
  | landed _ hclose | landedRun _ hclose =>
    rw [hclose, perform_cons]
    exact (hp.land site _).congr (panelAt_perform site _ (by simp [Act.keepsPanels]) d) rfl
  | @closed id _ hclose =>
    let turned := (Act.turn ⟨site.toSurroundings, now, .close id⟩).apply site s
    have hdrop : panelAt ((Act.drop id).apply site turned) d = _ := panelAt_drop site turned id d
    rw [hclose, perform_cons, perform_cons, perform_nil]
    by_cases he : id = d
    · rw [if_pos he] at hdrop
      rw [if_pos (congrArg some he)]
      exact ⟨fun _ => rfl, fun panel hpanel => by rw [hdrop] at hpanel; cases hpanel⟩
    · rw [if_neg he] at hdrop
      rw [if_neg (he <| Option.some.inj ·)]
      exact hp.congr hdrop rfl

/-- A call shows what it tells. -/
theorem Performs.paneled {c : Call} {goesOn : Bool} (h : Performs c s goesOn acts)
    (hp : Paneled s d ns) :
    Paneled (perform c.site s acts) d ((if c.closes d then [] else ns) ++ c.told s) := by
  cases h with
  | ignored hreq hturn =>
    have htold : c.told s = [] := by rw [Call.told, hturn]
    rw [htold, Call.closes_none d hreq, List.append_nil]
    exact hp.congr (panelAt_perform c.site s (by simp [Act.keepsPanels]) d) rfl
  | goodbye hreq hturn =>
    have htold : c.told s = [] := by rw [Call.told, hturn]
    rw [htold, Call.closes_request d hreq, List.append_nil]
    exact hp.congr (panelAt_perform c.site s (by simp [Act.keepsPanels]) d) rfl
  | passed hreq =>
    rw [Call.closes_none d hreq, perform_cons]
    exact (hp.congr (panelAt_apply c.site s rfl d) rfl).flush c.site _
  | @answered seq command arguments answer acts hreq hhandled =>
    have hanswered := hhandled.paneled (hp.congr (panelAt_apply c.site s rfl d) rfl)
    rw [Call.closes_request d hreq, perform_append, perform_cons, perform_cons]
    refine Paneled.flush ?_ c.site _
    refine Paneled.congr ?_ (panelAt_apply c.site _ rfl d) rfl
    simpa using hanswered

/-- A run keeps what is seen of a document right. -/
theorem watch_right {calls : List Call} (hcalls : ∀ c ∈ calls, c.Unbroken)
    (hs : s.scheduler.notices = []) {v : Sight} (hpage : Paged s d v.page)
    (hpanel : Paneled s d v.notices) :
    Paged (serve s calls) d (watch d v s calls).page ∧
      Paneled (serve s calls) d (watch d v s calls).notices := by
  induction calls generalizing s v with
  | nil => exact ⟨hpage, hpanel⟩
  | cons c rest ih =>
    obtain ⟨goesOn, acts, hrun, hperforms⟩ := performs (hcalls c List.mem_cons_self) hs
    have happly : c.apply s = perform c.site s acts := congrArg Prod.snd hrun
    have hquiet : (c.apply s).scheduler.notices = [] := by
      rw [happly]
      exact hperforms.flushed hs
    have hpage' : Paged (c.apply s) d (v.after c s d).page := by
      rw [Sight.after, happly]
      exact hperforms.follows d _ hpage
    have hpanel' : Paneled (c.apply s) d (v.after c s d).notices := by
      rw [Sight.after, happly]
      exact hperforms.paneled hpanel
    exact ih (fun c hc => hcalls c (List.mem_cons_of_mem _ hc)) hquiet hpage' hpanel'

/-- Only a delivery puts a trace before a document, with the grid that belongs to it. -/
theorem panelOf_trace {n? : Option Notice} {grid : Grid} {source trace interpreter : String}
    (hd : ∀ n, n? = some n → isShowing d n = true)
    (h : Panel.trace grid source trace interpreter = panelOf n?) :
    grid = Grid.build source trace ∧ ∃ token delivery, n? = some (.delivered d token delivery) ∧
      delivery.kind ≠ .infrastructure ∧ delivery.source = source ∧ delivery.text = trace ∧
      delivery.interpreter = interpreter := by
  obtain _ | n := n?
  · cases h
  cases n with
  | runStarted | installFinished => cases hd _ rfl
  | installPrompt => cases h
  | delivered id token delivery =>
    obtain rfl : id = d := of_decide_eq_true (hd _ rfl)
    have hpanel : Panel.trace grid source trace interpreter = Server.deliveryPanel delivery := h
    rw [Server.deliveryPanel] at hpanel
    cases hkind : delivery.kind with
    | infrastructure =>
      rw [hkind] at hpanel
      cases hpanel
    | output | userError =>
      rw [hkind] at hpanel
      obtain ⟨hgrid, hsource, htrace, hinterpreter⟩ := Panel.trace.inj hpanel
      refine ⟨?_, token, delivery, rfl, ?_, hsource.symm, htrace.symm, hinterpreter.symm⟩
      · rw [hgrid, hsource, htrace]
      · rw [hkind]
        nofun

/-- In every run of a new server whose messages can be written, the editor shows of a document what
the server has of it. -/
theorem faithful (availability : Availability) (options : Options) (settings : Settings)
    (calls : List Call) (hcalls : ∀ c ∈ calls, c.Unbroken) (d : DocumentId) (p : Preview)
    (hp : Keyed.get? (serve (fresh availability options settings) calls).previews d = some p) :
    Faithful (serve (fresh availability options settings) calls) d
      (watch d ⟨none, []⟩ (fresh availability options settings) calls) p := by
  obtain ⟨hpage, hpanel⟩ := watch_right (s := fresh availability options settings) (d := d)
    (v := ⟨none, []⟩) hcalls rfl paged_absent ⟨fun _ => rfl, nofun⟩
  refine ⟨fun x => hpage.fits p x hp, fun grid source trace interpreter htrace => ?_⟩
  refine panelOf_trace (fun n hn => ?_) (hpanel.panel _ ?_)
  · exact (List.mem_filter.mp (List.mem_of_getLast? hn)).2
  · rw [panelAt, hp, Option.map_some, htrace]

def isTrace : Panel → Bool
  | .trace .. => true
  | _ => false

/-- A document is run without being opened, the source is hidden and the trace is scrolled. -/
def viewing : List Call :=
  let name := ("document", Json.string "d")
  [ asking 0 1 "save" (some (.ofFields [name, ("text", .string "x = 1")])),
    ⟨willing, 1, .ended ⟨.probe "python", .exited (some 0) "" ""⟩⟩,
    ⟨willing, 2, .ended ⟨.trace "d" 1, .exited (some 0) "x = 1" ""⟩⟩,
    asking 3 2 "toggleSource" (some (.ofFields [("value", .bool false)])),
    asking 4 3 "visibleRange" (some (.ofFields [name, ("line", .nat 7)])) ]

theorem faithful_viewing : (∀ c ∈ viewing, c.Unbroken) ∧
    ∃ p, Keyed.get? (serve (fresh [] plainOptions .default) viewing).previews "d" = some p ∧
      Faithful (serve (fresh [] plainOptions .default) viewing) "d"
        (watch "d" ⟨none, []⟩ (fresh [] plainOptions .default) viewing) p ∧
      isTrace p.panel = true ∧
      (watch "d" ⟨none, []⟩ (fresh [] plainOptions .default) viewing).page.map (·.scrolled)
        = some true := by
  have hcalls : ∀ c ∈ viewing, c.Unbroken := by simp [viewing, Call.Unbroken, asking, willing]
  have hpanel : (Keyed.get? (serve (fresh [] plainOptions .default) viewing).previews "d").any
      (isTrace ·.panel) = true := by decide +kernel
  obtain ⟨p, hp, htrace⟩ := (Option.any_eq_true ..).mp hpanel
  exact ⟨hcalls, p, hp, faithful [] plainOptions .default viewing hcalls "d" p hp, htrace,
    by decide +kernel⟩

end TraceView.Proofs.Editor
