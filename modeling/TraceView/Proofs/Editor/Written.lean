import TraceView.Proofs.Editor.Performs

/-!
# What is written

Every act appends messages to what was sent, and they take the next numbers. Only a reply appends a
response, only a page counts as rendered, and acts that write nothing leave all three alone.
-/
namespace TraceView.Proofs.Editor

open TraceView TraceView.Editor TraceView.Run

/-- The number and the command of the request that a message answers. -/
def answered? (m : Message) : Option (Nat × String) :=
  match m.content with
  | .response requestSeq _ command _ _ => some (requestSeq, command)
  | _ => none

def isFailure (m : Message) : Bool :=
  match m.content with
  | .response _ success _ _ _ => !success
  | _ => false

/-- The document that a message brings a page for, and the page. -/
def rendered? (m : Message) : Option (DocumentId × String) :=
  match m.content with
  | .event "render" (some body) => do
    let id ← body.field? "document" >>= asString?
    let html ← body.field? "html" >>= asString?
    return (id, html)
  | _ => none

/-- The messages by which the second state is ahead of the first. -/
def wrote (s s' : Server) : List Message :=
  s'.sent.drop s.sent.length

/-- The second state is ahead of the first by messages only, numbered on, and counts its pages. -/
structure Extends (s s' : Server) : Prop where
  sent : s'.sent = s.sent ++ wrote s s'
  seq : s'.seq = s.seq + (wrote s s').length
  numbers : (wrote s s').map (·.seq) = List.range' (s.seq + 1) (wrote s s').length
  pages : s'.pages = s.pages + ((wrote s s').filterMap rendered?).length

def OnlyEvents (messages : List Message) : Prop :=
  ∀ m ∈ messages, ∃ name body, m.content = .event name body

/-- It is ahead by events only. -/
structure Speaks (s s' : Server) : Prop extends Extends s s' where
  events : OnlyEvents (wrote s s')

variable {s s' s'' : Server} {site : Site} {acts : List Act}

theorem OnlyEvents.responses {messages : List Message} (h : OnlyEvents messages) :
    messages.filterMap answered? = [] := by
  refine List.filterMap_eq_nil_iff.mpr fun m hm => ?_
  obtain ⟨name, body, hcontent⟩ := h m hm
  rw [answered?, hcontent]

theorem OnlyEvents.not_failure {messages : List Message} (h : OnlyEvents messages) {m : Message}
    (hm : m ∈ messages) : isFailure m = false := by
  obtain ⟨name, body, hcontent⟩ := h m hm
  rw [isFailure, hcontent]

theorem wrote_of_sent {new : List Message} (h : s'.sent = s.sent ++ new) : wrote s s' = new := by
  rw [wrote, h, List.drop_left]

theorem wrote_of_same (h : s'.sent = s.sent) : wrote s s' = [] :=
  wrote_of_sent (by rw [h, List.append_nil])

theorem speaks_of_same (hsent : s'.sent = s.sent) (hseq : s'.seq = s.seq)
    (hpages : s'.pages = s.pages) : Speaks s s' := by
  have hw := wrote_of_same hsent
  refine ⟨⟨?_, ?_, ?_, ?_⟩, ?_⟩
  · rw [hw, hsent, List.append_nil]
  · rw [hw, hseq]
    rfl
  · rw [hw]
    rfl
  · rw [hw, hpages]
    rfl
  · rw [hw]
    nofun

theorem Extends.wrote_trans (h : Extends s s') (h' : Extends s' s'') :
    wrote s s'' = wrote s s' ++ wrote s' s'' :=
  wrote_of_sent (by rw [h'.sent, h.sent, List.append_assoc])

theorem Extends.trans (h : Extends s s') (h' : Extends s' s'') : Extends s s'' := by
  have hw := h.wrote_trans h'
  constructor
  · rw [hw, ← List.append_assoc, ← h.sent, ← h'.sent]
  · rw [hw, List.length_append, ← Nat.add_assoc, ← h.seq, ← h'.seq]
  · rw [hw, List.map_append, h.numbers, h'.numbers, List.length_append, h.seq,
      ← List.range'_append_1, Nat.add_right_comm]
  · rw [hw, List.filterMap_append, List.length_append, ← Nat.add_assoc, ← h.pages, ← h'.pages]

theorem Speaks.trans (h : Speaks s s') (h' : Speaks s' s'') : Speaks s s'' := by
  refine ⟨h.toExtends.trans h'.toExtends, ?_⟩
  rw [h.toExtends.wrote_trans h'.toExtends]
  intro m hm
  rcases List.mem_append.mp hm with hm | hm
  · exact h.events m hm
  · exact h'.events m hm

theorem wrote_posted (s : Server) (kind : String) (content : Content) :
    wrote s (posted s kind content) = [⟨s.seq + 1, kind, content⟩] :=
  wrote_of_sent rfl

theorem document_page (id : DocumentId) (html : String) :
    (Json.ofFields (pageBody id html)).field? "document" = some (.string id) := by
  simp [Json.field?, Json.ofFields, pageBody, Keyed.ofList, Keyed.get?_insert]

theorem rendered?_page (n : Nat) (kind : String) (id : DocumentId) (html : String) :
    rendered? ⟨n, kind, .event "render" (some (.ofFields (pageBody id html)))⟩ =
      some (id, html) := by
  have hhtml : (Json.ofFields (pageBody id html)).field? "html" = some (.string html) := by
    simp [Json.field?, Json.ofFields, pageBody, Keyed.ofList, Keyed.get?_insert]
  simp only [rendered?, document_page, hhtml]
  rfl

theorem rendered?_topic (n : Nat) (kind : String) (topic : Topic) (body : Option Json) :
    rendered? ⟨n, kind, .event topic.name body⟩ = none := by
  cases topic <;> rfl

theorem rendered?_response (n : Nat) (kind : String) (requestSeq : Nat) (command : String)
    (answer : Except String (Option Json)) :
    rendered? ⟨n, kind, response requestSeq command answer⟩ = none := by
  cases answer <;> rfl

theorem extends_posted {kind : String} {content : Content}
    (h : rendered? ⟨s.seq + 1, kind, content⟩ = none) : Extends s (posted s kind content) := by
  have hw := wrote_posted s kind content
  constructor
  · rw [hw]
    rfl
  · rw [hw]
    rfl
  · rw [hw]
    rfl
  · rw [hw, List.filterMap_cons_none h]
    rfl

theorem speaks_topic (s : Server) (topic : Topic) (body : List (String × Json)) :
    Speaks s (spoken s topic.name body) := by
  refine ⟨extends_posted (rendered?_topic ..), ?_⟩
  rw [spoken, wrote_posted]
  intro m hm
  cases List.mem_singleton.mp hm
  exact ⟨_, _, rfl⟩

/-- A document is drawn if it has a preview. -/
theorem drawn_cases (site : Site) (s : Server) (id : DocumentId) :
    (Keyed.get? s.previews id = none ∧ drawn site s id = s) ∨
      ∃ p, Keyed.get? s.previews id = some p ∧ Speaks s (drawn site s id) ∧
        wrote s (drawn site s id) = [⟨s.seq + 1, "event", .event "render" (some (.ofFields
          (pageBody id (p.page s.flags (site.token s.pages)))))⟩] := by
  unfold drawn
  cases hp : Keyed.get? s.previews id with
  | none => exact .inl ⟨rfl, rfl⟩
  | some p =>
    have hw : wrote s (spoken { s with pages := s.pages + 1 } "render" (pageBody id
        (p.page s.flags (site.token s.pages)))) = [⟨s.seq + 1, "event", .event "render"
          (some (.ofFields (pageBody id (p.page s.flags (site.token s.pages)))))⟩] :=
      wrote_of_sent rfl
    refine .inr ⟨p, rfl, ⟨⟨?_, ?_, ?_, ?_⟩, ?_⟩, hw⟩
    · rw [hw]
      rfl
    · rw [hw]
      rfl
    · rw [hw]
      rfl
    · rw [hw, List.filterMap_cons_some (rendered?_page ..)]
      rfl
    · rw [hw]
      intro m hm
      cases List.mem_singleton.mp hm
      exact ⟨_, _, rfl⟩

theorem speaks_drawn (site : Site) (s : Server) (id : DocumentId) :
    Speaks s (drawn site s id) := by
  rcases drawn_cases site s id with ⟨-, h⟩ | ⟨p, -, h, -⟩
  · rw [h]
    exact speaks_of_same rfl rfl rfl
  · exact h

theorem speaks_foldl_drawn (site : Site) (ids : List DocumentId) (s : Server) :
    Speaks s (ids.foldl (drawn site) s) := by
  induction ids generalizing s with
  | nil => exact speaks_of_same rfl rfl rfl
  | cons id rest ih => exact (speaks_drawn site s id).trans (ih _)

theorem speaks_changed (s : Server) (id : DocumentId) (f : Page.Preview → Page.Preview) :
    Speaks s (changed s id f) := by
  unfold changed
  split <;> exact speaks_of_same rfl rfl rfl

theorem speaks_landed (s : Server) (id : DocumentId) : Speaks s (landed s id) := by
  unfold landed
  split <;> exact speaks_of_same rfl rfl rfl

def Act.isReply : Act → Bool
  | .reply .. => true
  | _ => false

theorem speaks_apply (site : Site) (s : Server) {a : Act} (h : a.isReply = false) :
    Speaks s (a.apply site s) := by
  cases a with
  | say topic body => exact speaks_topic s topic body
  | reply => cases h
  | draw id => exact speaks_drawn site s id
  | land id => exact speaks_landed s id
  | scroll id line => exact speaks_changed s id _
  | place id placement => exact (speaks_changed s id _).trans (speaks_drawn site _ id)
  | «show» id panel =>
    have hput : Speaks s (withPreview s id { previewOf s id with panel }) :=
      speaks_of_same rfl rfl rfl
    exact hput.trans (speaks_drawn site _ id)
  | toggle which value =>
    have hset : Speaks s { s with flags := Server.setToggle s.flags which value } :=
      speaks_of_same rfl rfl rfl
    exact hset.trans (speaks_foldl_drawn site _ _)
  | _ => exact speaks_of_same rfl rfl rfl

theorem extends_apply (site : Site) (s : Server) (a : Act) : Extends s (a.apply site s) := by
  cases a with
  | reply requestSeq command answer => exact extends_posted (rendered?_response ..)
  | _ => exact (speaks_apply site s rfl).toExtends

theorem extends_perform (site : Site) (s : Server) (acts : List Act) :
    Extends s (perform site s acts) := by
  induction acts generalizing s with
  | nil => exact (speaks_of_same rfl rfl rfl).toExtends
  | cons a acts ih => exact (extends_apply site s a).trans (ih _)

theorem speaks_perform (site : Site) (s : Server) (h : ∀ a ∈ acts, a.isReply = false) :
    Speaks s (perform site s acts) := by
  induction acts generalizing s with
  | nil => exact speaks_of_same rfl rfl rfl
  | cons a acts ih =>
    exact (speaks_apply site s (h a List.mem_cons_self)).trans
      (ih _ fun a ha => h a (List.mem_cons_of_mem _ ha))

end TraceView.Proofs.Editor
