import TraceView.Proofs.Editor.Drawn

/-!
# The page before the editor

The page that the editor last got for a document is the page of its preview, with the panel, the
variables and the flags of the server as they are; only the line that the preview is scrolled to may
have changed, and only a visible range changes it.
-/
namespace TraceView.Proofs.Editor

open TraceView TraceView.Editor TraceView.Run TraceView.Proofs.Run
open TraceView.Html (DisplayFlags)
open TraceView.Page (Preview)

/-- A page before the editor, and whether it was asked to be scrolled since. -/
structure Shown where
  html : String
  token : String
  scrolled : Bool

/-- The page that the second state has before the editor, if the first had `x?`. -/
def shownAfter (site : Site) (scrolls : Bool) (s s' : Server) (d : DocumentId) (x? : Option Shown) :
    Option Shown :=
  if (Keyed.get? s'.previews d).isNone then none
  else
    match lastDrawing? site s s' d with
    | some w => some ⟨w.html, w.token, false⟩
    | none => x?.map fun x => { x with scrolled := x.scrolled || scrolls }

/-- The page is the one of the preview, which may have been scrolled if it was asked to be. -/
def Shown.Fits (x : Shown) (flags : DisplayFlags) (p : Preview) : Prop :=
  ∃ line, x.html = { p with scrollLine := line }.page flags x.token ∧
    (x.scrolled = false → line = p.scrollLine)

variable {s s' s'' : Server} {site : Site} {d : DocumentId} {b : Bool} {x? : Option Shown}
  {acts : List Act}

/-- A document without a preview has no page; the page of any other fits. -/
structure Paged (s : Server) (d : DocumentId) (x? : Option Shown) : Prop where
  absent : Keyed.get? s.previews d = none → x? = none
  fits : ∀ p x, Keyed.get? s.previews d = some p → x? = some x → x.Fits s.flags p

/-- What the acts between the states write keeps the editor's page right. -/
def Follows (site : Site) (scrolls : Bool) (d : DocumentId) (s s' : Server) : Prop :=
  ∀ x?, Paged s d x? → Paged s' d (shownAfter site scrolls s s' d x?)

theorem shownAfter_absent (h : Keyed.get? s'.previews d = none) :
    shownAfter site b s s' d x? = none := by
  rw [shownAfter, h]
  rfl

theorem shownAfter_drawn {p : Preview} {id : DocumentId} {html token : String}
    (hp : Keyed.get? s'.previews d = some p)
    (hw : lastDrawing? site s s' d = some ⟨id, html, token⟩) :
    shownAfter site b s s' d x? = some ⟨html, token, false⟩ := by
  rw [shownAfter, hp, hw]
  rfl

theorem shownAfter_silent {p : Preview} (hp : Keyed.get? s'.previews d = some p)
    (hw : lastDrawing? site s s' d = none) :
    shownAfter site b s s' d x? = x?.map fun x => { x with scrolled := x.scrolled || b } := by
  rw [shownAfter, hp, hw]
  rfl

theorem paged_absent : Paged s d none :=
  ⟨fun _ => rfl, nofun⟩

theorem paged_present {p : Preview} (hp : Keyed.get? s.previews d = some p)
    (h : ∀ x, x? = some x → x.Fits s.flags p) : Paged s d x? where
  absent hnone := by
    rw [hp] at hnone
    cases hnone
  fits q x hq hx := by
    cases hp.symm.trans hq
    exact h x hx

theorem fits_page (p : Preview) (flags : DisplayFlags) (token : String) :
    Shown.Fits ⟨p.page flags token, token, false⟩ flags p := by
  have hsame : { p with scrollLine := p.scrollLine } = p := rfl
  exact ⟨p.scrollLine, by rw [hsame], fun _ => rfl⟩

/-- To be asked to be scrolled excuses more, not less. -/
theorem Shown.Fits.scroll {x : Shown} {flags : DisplayFlags} {p : Preview} (h : x.Fits flags p) :
    Shown.Fits { x with scrolled := x.scrolled || b } flags p := by
  obtain ⟨line, hhtml, hline⟩ := h
  exact ⟨line, hhtml, fun h => hline (Bool.or_eq_false_iff.mp h).1⟩

theorem Steady.follows (h : Steady site d s s') : Follows site b d s s' := by
  intro x? hx
  cases hp : Keyed.get? s'.previews d with
  | none =>
    rw [shownAfter_absent hp]
    exact paged_absent
  | some p =>
    rcases h.fate with ⟨q, token, hq, hlast⟩ | hunmoved
    · cases hp.symm.trans hq
      rw [shownAfter_drawn hp hlast]
      refine paged_present hp fun x hsome => ?_
      rw [← Option.some.inj hsome]
      exact fits_page p s'.flags token
    · rw [shownAfter_silent hp hunmoved.nothing]
      have hbefore := hunmoved.preview.symm.trans hp
      refine paged_present hp fun y hy => ?_
      obtain ⟨x, hsome, rfl⟩ := Option.map_eq_some_iff.mp hy
      rw [hunmoved.flags (by rw [hbefore]; rfl)]
      exact (hx.fits p x hbefore hsome).scroll

theorem shownAfter_trans (h : Extends s s') (h' : Steady site d s' s'') :
    shownAfter site b s s'' d x? =
      shownAfter site false s' s'' d (shownAfter site b s s' d x?) := by
  cases hp : Keyed.get? s''.previews d with
  | none => rw [shownAfter_absent hp, shownAfter_absent hp]
  | some p =>
    -- A page drawn in the second stretch hides all before it; if there is none, the preview was
    -- there in between too, so the first stretch did not lose its page.
    have hlast : lastDrawing? site s s'' d = _ := h.lastDrawing_trans h'.toExtends
    cases hw : lastDrawing? site s' s'' d with
    | some w =>
      rw [hw, Option.some_or] at hlast
      rw [shownAfter_drawn hp hlast, shownAfter_drawn hp hw]
    | none =>
      rw [hw, Option.none_or] at hlast
      have hunmoved : Unmoved site d s' s'' := h'.fate.resolve_left fun ⟨_, _, _, hsome⟩ => by
        rw [hw] at hsome
        cases hsome
      have hp' := hunmoved.preview.symm.trans hp
      rw [shownAfter_silent hp hw, shownAfter, shownAfter, hlast, hp, hp']
      simp

theorem Follows.steady (h : Follows site b d s s') (hext : Extends s s')
    (h' : Steady site d s' s'') : Follows site b d s s'' := by
  intro x? hx
  rw [shownAfter_trans hext h']
  exact h'.follows _ (h x? hx)

/-- What the scheduler is at does not matter. -/
theorem Follows.of_scheduler {scheduler : Scheduler}
    (h : Follows site b d { s with scheduler } s') : Follows site b d s s' :=
  fun x? hx => h x? ⟨hx.absent, hx.fits⟩

theorem lastDrawing_withPreview (site : Site) (s : Server) (id d : DocumentId) (p : Preview) :
    lastDrawing? site s (withPreview s id p) d = none :=
  lastDrawing_of_same rfl

theorem follows_land (site : Site) (s : Server) (id d : DocumentId) :
    Follows site b d s ((Act.land id).apply site s) := by
  by_cases he : id = d
  · subst he
    rw [Act.apply, landed]
    split
    · next hnone =>
      intro x? hx
      have hp := (get?_withPreview s id id (.ofPanel .landing)).trans (if_pos rfl)
      rw [shownAfter_silent hp (lastDrawing_withPreview ..),
        hx.absent (Option.isNone_iff_eq_none.mp hnone), Option.map_none]
      exact paged_present hp fun _ hsome => by cases hsome
    · exact (steady_of_same rfl rfl rfl rfl rfl).follows
  · exact (steady_apply site s (by simpa [Act.spares] using he)).follows

theorem follows_drop (site : Site) (s : Server) (id d : DocumentId) :
    Follows site b d s ((Act.drop id).apply site s) := by
  by_cases he : id = d
  · subst he
    intro x? _
    rw [shownAfter_absent ((Keyed.get?_erase ..).trans (if_pos rfl))]
    exact paged_absent
  · exact (steady_apply site s (by simpa [Act.spares] using he)).follows

theorem follows_scroll (site : Site) (s : Server) (id d : DocumentId) (line : Nat)
    (hb : id = d → b = true) : Follows site b d s ((Act.scroll id line).apply site s) := by
  by_cases he : id = d
  · subst he
    rw [Act.apply, changed]
    split
    · exact (steady_of_same rfl rfl rfl rfl rfl).follows
    · next p hbefore =>
      intro x? hx
      have hp := (get?_withPreview s id id { p with scrollLine := line }).trans (if_pos rfl)
      rw [shownAfter_silent hp (lastDrawing_withPreview ..)]
      refine paged_present hp fun y hy => ?_
      obtain ⟨x, hsome, rfl⟩ := Option.map_eq_some_iff.mp hy
      obtain ⟨old, hhtml, -⟩ := hx.fits p x hbefore hsome
      exact ⟨old, hhtml, by simp [hb rfl]⟩
  · exact (steady_apply site s (by simpa [Act.spares] using he)).follows

theorem spares_cons {a : Act} (h : a.spares d = true) (hacts : ∀ b ∈ acts, b.spares d = true) :
    ∀ b ∈ a :: acts, b.spares d = true :=
  List.forall_mem_cons.mpr ⟨h, hacts⟩

theorem spares_nil : ∀ a ∈ ([] : List Act), a.spares d = true :=
  List.forall_mem_nil _

theorem flushActs_spares (d : DocumentId) (ns : List Notice) :
    ∀ a ∈ flushActs ns, a.spares d = true := by
  intro a ha
  have htells := flushActs_tell ns a ha
  cases a with
  | land | drop | scroll => cases htells
  | _ => rfl

theorem Handled.follows {now : Nat} {command : String} {arguments : Option Json}
    {answer : Except String (Option Json)} (h : Handled site now s command arguments answer acts)
    (d : DocumentId) :
    Follows site (scrolled? command arguments = some d) d s (perform site s acts) := by
  have hland := fun id => follows_land (b := scrolled? command arguments = some d) site s id d
  cases h with
  | refused | idle => exact (steady_perform site s spares_nil).follows
  | unknown | moved | installRefused | toggled | placed =>
    exact (steady_perform site s (spares_cons rfl spares_nil)).follows
  | landed | landedRun =>
    exact (hland _).steady (extends_apply ..) (steady_perform site _ (spares_cons rfl spares_nil))
  | @closed id =>
    exact Follows.of_scheduler (follows_drop site _ id d)
  | @scrolled id line _ _ hscroll =>
    have hb : id = d → decide (scrolled? command arguments = some d) = true := by
      rintro rfl
      exact decide_eq_true hscroll
    exact (follows_scroll site s id d line hb).steady (extends_apply ..)
      (steady_perform site _ (spares_cons rfl spares_nil))

/-- A call keeps the editor's page right. -/
theorem Performs.follows {c : Call} {goesOn : Bool} (h : Performs c s goesOn acts)
    (d : DocumentId) : Follows c.site (c.scrolls d) d s (perform c.site s acts) := by
  cases h with
  | ignored => exact (steady_perform c.site s (spares_cons rfl spares_nil)).follows
  | goodbye =>
    exact (steady_perform c.site s (spares_cons rfl (spares_cons rfl spares_nil))).follows
  | passed => exact (steady_perform c.site s (spares_cons rfl (flushActs_spares d _))).follows
  | @answered seq command arguments answer acts hreq hhandled =>
    rw [Call.scrolls_request d hreq, perform_append, perform_cons]
    have hanswer : (Act.reply seq command answer).spares d = true := rfl
    have hext : Extends s (perform c.site _ acts) :=
      extends_perform c.site s (.note (requestLine seq command) :: acts)
    exact (Follows.of_scheduler (hhandled.follows d)).steady hext
      (steady_perform c.site _ (spares_cons hanswer (flushActs_spares d _)))

end TraceView.Proofs.Editor
