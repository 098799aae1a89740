import TraceView.Proofs.Editor.Written
import TraceView.Proofs.KeyOrder

/-!
# What is drawn

Pages are numbered as they are written, and the number of a page gives its token. A stretch of acts
leaves a document in one of two ways, unless it makes, drops or scrolls its preview: either the last
page written for the document is the page of its preview as it is then, or none was written and
nothing has changed that its page depends on.
-/
namespace TraceView.Proofs.Editor

open TraceView TraceView.Editor TraceView.Run
open TraceView.Page (Preview)

structure Drawing where
  document : DocumentId
  html : String
  token : String

/-- The pages by which the second state is ahead, each with its token. -/
def drawings (site : Site) (s s' : Server) : List Drawing :=
  (((wrote s s').filterMap rendered?).zipIdx s.pages).map fun r => ⟨r.1.1, r.1.2, site.token r.2⟩

def lastDrawing? (site : Site) (s s' : Server) (d : DocumentId) : Option Drawing :=
  ((drawings site s s').filter (·.document = d)).getLast?

/-- The last page drawn for the document is the page of its preview. -/
def Current (site : Site) (d : DocumentId) (s s' : Server) : Prop :=
  ∃ p token, Keyed.get? s'.previews d = some p ∧
    lastDrawing? site s s' d = some ⟨d, p.page s'.flags token, token⟩

/-- Nothing is drawn for the document, and nothing that its page depends on changes. -/
structure Unmoved (site : Site) (d : DocumentId) (s s' : Server) : Prop where
  nothing : lastDrawing? site s s' d = none
  preview : Keyed.get? s'.previews d = Keyed.get? s.previews d
  flags : (Keyed.get? s.previews d).isSome → s'.flags = s.flags

structure Steady (site : Site) (d : DocumentId) (s s' : Server) : Prop extends Extends s s' where
  fate : Current site d s s' ∨ Unmoved site d s s'

variable {s s' s'' : Server} {site : Site} {d : DocumentId}

theorem Extends.drawings_trans (h : Extends s s') (h' : Extends s' s'') :
    drawings site s s'' = drawings site s s' ++ drawings site s' s'' := by
  rw [drawings, h.wrote_trans h', List.filterMap_append, List.zipIdx_append, List.map_append,
    ← h.pages, drawings, drawings]

theorem Extends.lastDrawing_trans (h : Extends s s') (h' : Extends s' s'') :
    lastDrawing? site s s'' d = (lastDrawing? site s' s'' d).or (lastDrawing? site s s' d) := by
  rw [lastDrawing?, h.drawings_trans h', List.filter_append, List.getLast?_append, lastDrawing?,
    lastDrawing?]

theorem Current.before (h : Extends s s') (h' : Extends s' s'') (hd : Current site d s' s'') :
    Current site d s s'' := by
  obtain ⟨p, token, hp, hlast⟩ := hd
  exact ⟨p, token, hp, by rw [h.lastDrawing_trans h', hlast, Option.some_or]⟩

theorem Current.after (h : Extends s s') (hd : Current site d s s') (h' : Steady site d s' s'') :
    Current site d s s'' := by
  rcases h'.fate with hcurrent | hunmoved
  · exact hcurrent.before h h'.toExtends
  · obtain ⟨p, token, hp, hlast⟩ := hd
    refine ⟨p, token, hunmoved.preview.trans hp, ?_⟩
    rw [h.lastDrawing_trans h'.toExtends, hunmoved.nothing, Option.none_or, hlast,
      hunmoved.flags (by rw [hp]; rfl)]

theorem Unmoved.trans (h : Extends s s') (h' : Extends s' s'') (hu : Unmoved site d s s')
    (hu' : Unmoved site d s' s'') : Unmoved site d s s'' where
  nothing := by rw [h.lastDrawing_trans h', hu'.nothing, hu.nothing, Option.none_or]
  preview := hu'.preview.trans hu.preview
  flags hp := (hu'.flags (by rwa [hu.preview])).trans (hu.flags hp)

theorem Steady.trans (h : Steady site d s s') (h' : Steady site d s' s'') :
    Steady site d s s'' := by
  refine ⟨h.toExtends.trans h'.toExtends, ?_⟩
  rcases h.fate with hcurrent | hunmoved
  · exact .inl (hcurrent.after h.toExtends h')
  rcases h'.fate with hcurrent | hunmoved'
  · exact .inl (hcurrent.before h.toExtends h'.toExtends)
  · exact .inr (hunmoved.trans h.toExtends h'.toExtends hunmoved')

theorem lastDrawing_of_silent (h : (wrote s s').filterMap rendered? = []) :
    lastDrawing? site s s' d = none := by
  rw [lastDrawing?, drawings, h]
  rfl

theorem lastDrawing_of_same (h : s'.sent = s.sent) : lastDrawing? site s s' d = none :=
  lastDrawing_of_silent (by rw [wrote_of_same h]; rfl)

theorem lastDrawing_posted {kind : String} {content : Content}
    (h : rendered? ⟨s.seq + 1, kind, content⟩ = none) :
    lastDrawing? site s (posted s kind content) d = none :=
  lastDrawing_of_silent (by rw [wrote_posted, List.filterMap_cons_none h]; rfl)

theorem previews_drawn (site : Site) (s : Server) (id : DocumentId) :
    (drawn site s id).previews = s.previews := by
  unfold drawn
  split <;> rfl

theorem flags_drawn (site : Site) (s : Server) (id : DocumentId) :
    (drawn site s id).flags = s.flags := by
  unfold drawn
  split <;> rfl

theorem lastDrawing_drawn (site : Site) (s : Server) (id d : DocumentId) :
    lastDrawing? site s (drawn site s id) d =
      if id = d then (Keyed.get? s.previews d).map fun p =>
        ⟨d, p.page s.flags (site.token s.pages), site.token s.pages⟩
      else none := by
  rcases drawn_cases site s id with ⟨hp, hsame⟩ | ⟨p, hp, -, hw⟩
  · rw [hsame, lastDrawing_of_same rfl]
    split
    · next he => rw [← he, hp, Option.map_none]
    · rfl
  · rw [lastDrawing?, drawings, hw, List.filterMap_cons_some (rendered?_page ..)]
    by_cases he : id = d
    · subst he
      rw [if_pos rfl, hp]
      simp
    · rw [if_neg he]
      simp [he]

/-- A drawing is of the preview as it is. -/
theorem current_drawn {p : Preview} (hp : Keyed.get? s.previews d = some p) :
    Current site d s (drawn site s d) := by
  refine ⟨p, site.token s.pages, by rw [previews_drawn, hp], ?_⟩
  rw [lastDrawing_drawn, if_pos rfl, hp, flags_drawn, Option.map_some]

theorem steady_drawn (site : Site) (s : Server) (id d : DocumentId) :
    Steady site d s (drawn site s id) := by
  refine ⟨(speaks_drawn site s id).toExtends, ?_⟩
  by_cases he : id = d ∧ (Keyed.get? s.previews d).isSome
  · obtain ⟨rfl, hp⟩ := he
    obtain ⟨p, hp⟩ := Option.isSome_iff_exists.mp hp
    exact .inl (current_drawn hp)
  · refine .inr ⟨?_, by rw [previews_drawn], fun _ => flags_drawn site s id⟩
    rw [lastDrawing_drawn]
    split
    · next hd =>
      have hp : Keyed.get? s.previews d = none := by simpa [hd] using he
      rw [hp, Option.map_none]
    · rfl

theorem steady_foldl_drawn (site : Site) (ids : List DocumentId) (s : Server) (d : DocumentId) :
    Steady site d s (ids.foldl (drawn site) s) := by
  induction ids generalizing s with
  | nil => exact ⟨(speaks_of_same rfl rfl rfl).toExtends, .inr ⟨lastDrawing_of_same rfl, rfl,
      fun _ => rfl⟩⟩
  | cons id rest ih => exact (steady_drawn site s id d).trans (ih _)

theorem previews_foldl_drawn (site : Site) (ids : List DocumentId) (s : Server) :
    (ids.foldl (drawn site) s).previews = s.previews := by
  induction ids generalizing s with
  | nil => rfl
  | cons id rest ih => rw [List.foldl_cons, ih, previews_drawn]

/-- Whoever is among the documents drawn has the current page. -/
theorem current_foldl_drawn {ids : List DocumentId} {p : Preview} (hd : d ∈ ids)
    (hp : Keyed.get? s.previews d = some p) : Current site d s (ids.foldl (drawn site) s) := by
  -- Drawing others leaves the preview as it is, before and after it is drawn itself.
  obtain ⟨front, rest, rfl⟩ := List.append_of_mem hd
  have hfront := (steady_foldl_drawn site front s d).toExtends
  have hnow : Keyed.get? (front.foldl (drawn site) s).previews d = some p := by
    rw [previews_foldl_drawn, hp]
  have hone := (speaks_drawn site (front.foldl (drawn site) s) d).toExtends
  rw [List.foldl_append, List.foldl_cons]
  exact ((current_drawn hnow).before hfront hone).after (hfront.trans hone)
    (steady_foldl_drawn site rest _ d)

/-- Whatever changes but the preview, the flags and the messages. -/
theorem steady_of_same (hsent : s'.sent = s.sent) (hseq : s'.seq = s.seq)
    (hpages : s'.pages = s.pages) (hflags : s'.flags = s.flags)
    (hp : Keyed.get? s'.previews d = Keyed.get? s.previews d) : Steady site d s s' :=
  ⟨(speaks_of_same hsent hseq hpages).toExtends,
    .inr ⟨lastDrawing_of_same hsent, hp, fun _ => hflags⟩⟩

theorem steady_posted {kind : String} {content : Content}
    (h : rendered? ⟨s.seq + 1, kind, content⟩ = none) : Steady site d s (posted s kind content) :=
  ⟨extends_posted h, .inr ⟨lastDrawing_posted h, rfl, fun _ => rfl⟩⟩

theorem get?_withPreview (s : Server) (id d : DocumentId) (p : Preview) :
    Keyed.get? (withPreview s id p).previews d =
      if id = d then some p else Keyed.get? s.previews d :=
  Keyed.get?_insert ..

theorem get?_changed (s : Server) (id d : DocumentId) (f : Preview → Preview) :
    Keyed.get? (changed s id f).previews d =
      if id = d then (Keyed.get? s.previews d).map f else Keyed.get? s.previews d := by
  unfold changed
  split
  · next hp =>
    split
    · next he => rw [← he, hp, Option.map_none]
    · rfl
  · next p hp =>
    rw [get?_withPreview]
    split
    · next he => rw [← he, hp, Option.map_some]
    · rfl

theorem steady_changed {id : DocumentId} (h : id ≠ d) (f : Preview → Preview) :
    Steady site d s (changed s id f) := by
  unfold changed
  split
  · exact steady_of_same rfl rfl rfl rfl rfl
  · exact steady_of_same rfl rfl rfl rfl ((get?_withPreview ..).trans (if_neg h))

/-- The act leaves it to others to make, drop or scroll the preview. -/
def Act.spares (d : DocumentId) : Act → Bool
  | .land id | .drop id | .scroll id _ => id ≠ d
  | _ => true

/-- Whatever was done to the preview, drawing it makes up for it. -/
theorem steady_redrawn {p : Preview} (h : Extends s s') (hp : Keyed.get? s'.previews d = some p) :
    Steady site d s (drawn site s' d) :=
  ⟨h.trans (speaks_drawn ..).toExtends, .inl ((current_drawn hp).before h
    (speaks_drawn ..).toExtends)⟩

theorem steady_place (site : Site) (s : Server) (id d : DocumentId)
    (placement : Binding.Placement) : Steady site d s ((Act.place id placement).apply site s) := by
  by_cases he : id = d
  · subst he
    have hp := get?_changed s id id fun p => { p with placed := some placement }
    rw [if_pos rfl] at hp
    cases hbefore : Keyed.get? s.previews id with
    | none =>
      have hnone : changed s id (fun p => { p with placed := some placement }) = s := by
        rw [changed, hbefore]
      rw [Act.apply, hnone]
      exact steady_drawn site s id id
    | some p =>
      rw [hbefore, Option.map_some] at hp
      exact steady_redrawn (speaks_changed ..).toExtends hp
  · exact (steady_changed he _).trans (steady_drawn site _ id d)

theorem steady_show (site : Site) (s : Server) (id d : DocumentId) (panel : Page.Panel) :
    Steady site d s ((Act.show id panel).apply site s) := by
  by_cases he : id = d
  · subst he
    have hput : Speaks s (withPreview s id { previewOf s id with panel }) :=
      speaks_of_same rfl rfl rfl
    exact steady_redrawn hput.toExtends ((get?_withPreview ..).trans (if_pos rfl))
  · have hother : Steady site d s (withPreview s id { previewOf s id with panel }) :=
      steady_of_same rfl rfl rfl rfl ((get?_withPreview ..).trans (if_neg he))
    exact hother.trans (steady_drawn site _ id d)

/-- All documents are drawn under the new flags. -/
theorem steady_toggle (site : Site) (s : Server) (d : DocumentId) (which : Html.Toggle)
    (value : Bool) : Steady site d s ((Act.toggle which value).apply site s) := by
  have hset : Speaks s { s with flags := Server.setToggle s.flags which value } :=
    speaks_of_same rfl rfl rfl
  have hdraws := steady_foldl_drawn site (Keyed.keys s.previews)
    { s with flags := Server.setToggle s.flags which value } d
  refine ⟨hset.toExtends.trans hdraws.toExtends, ?_⟩
  cases hp : Keyed.get? s.previews d with
  | some p =>
    have hd : d ∈ Keyed.keys s.previews := List.mem_map.mpr ⟨(d, p), KeyOrder.get?_mem hp, rfl⟩
    exact .inl (current_foldl_drawn hd hp)
  | none =>
    have hnone := previews_foldl_drawn site (Keyed.keys s.previews)
      { s with flags := Server.setToggle s.flags which value }
    rcases hdraws.fate with ⟨p, token, hcurrent, -⟩ | hunmoved
    · rw [hnone, hp] at hcurrent
      cases hcurrent
    · exact .inr ⟨hunmoved.nothing, hunmoved.preview, by simp [hp]⟩

theorem steady_apply (site : Site) (s : Server) {a : Act} (h : a.spares d = true) :
    Steady site d s (a.apply site s) := by
  cases a with
  | say topic body => exact steady_posted (rendered?_topic ..)
  | reply requestSeq command answer => exact steady_posted (rendered?_response ..)
  | draw id => exact steady_drawn site s id d
  | land id =>
    have hne : id ≠ d := by simpa [Act.spares] using h
    rw [Act.apply, landed]
    split
    · exact steady_of_same rfl rfl rfl rfl ((get?_withPreview ..).trans (if_neg hne))
    · exact steady_of_same rfl rfl rfl rfl rfl
  | drop id =>
    have hne : id ≠ d := by simpa [Act.spares] using h
    exact steady_of_same rfl rfl rfl rfl ((Keyed.get?_erase ..).trans (if_neg hne))
  | scroll id line => exact steady_changed (by simpa [Act.spares] using h) _
  | place id placement => exact steady_place site s id d placement
  | «show» id panel => exact steady_show site s id d panel
  | toggle which value => exact steady_toggle site s d which value
  | _ => exact steady_of_same rfl rfl rfl rfl rfl

theorem steady_perform (site : Site) (s : Server) {acts : List Act}
    (h : ∀ a ∈ acts, a.spares d = true) : Steady site d s (perform site s acts) := by
  induction acts generalizing s with
  | nil => exact steady_of_same rfl rfl rfl rfl rfl
  | cons a acts ih =>
    exact (steady_apply site s (h a List.mem_cons_self)).trans
      (ih _ fun a ha => h a (List.mem_cons_of_mem _ ha))

end TraceView.Proofs.Editor
