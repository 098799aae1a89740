import TraceView.Proofs.Editor.Call

/-!
# What a call does

While writing never fails, a call of the server is a list of acts, each of which is one change of
its state: a line logged, a turn of the scheduler, a message, or a change of a preview together with
the rendering that goes with it. Only three kinds of acts concern the scheduler.
-/
namespace TraceView.Proofs.Editor

open TraceView TraceView.Editor TraceView.Run TraceView.Proofs.Run
open TraceView.Page (Panel Preview)
open TraceView.Html (DisplayFlags Toggle)

def posted (s : Server) (kind : String) (content : Content) : Server :=
  { s with seq := s.seq + 1, sent := s.sent ++ [⟨s.seq + 1, kind, content⟩] }

def spoken (s : Server) (name : String) (body : List (String × Json)) : Server :=
  posted s "event" (.event name (some (.ofFields body)))

/-- What is written for a page. -/
def pageBody (id : DocumentId) (html : String) : List (String × Json) :=
  [("document", .string id), ("html", .string html)]

def drawn (site : Site) (s : Server) (id : DocumentId) : Server :=
  match Keyed.get? s.previews id with
  | none => s
  | some p =>
    spoken { s with pages := s.pages + 1 } "render"
      (pageBody id (p.page s.flags (site.token s.pages)))

def withPreview (s : Server) (id : DocumentId) (p : Preview) : Server :=
  { s with previews := Keyed.insert s.previews id p }

/-- A document without a preview gets one. -/
def landed (s : Server) (id : DocumentId) : Server :=
  if (Keyed.get? s.previews id).isNone then withPreview s id (.ofPanel .landing) else s

/-- Changes the preview of a document, if there is one. -/
def changed (s : Server) (id : DocumentId) (f : Preview → Preview) : Server :=
  match Keyed.get? s.previews id with
  | none => s
  | some p => withPreview s id (f p)

/-- The preview of a document, which may be yet to be made. -/
def previewOf (s : Server) (id : DocumentId) : Preview :=
  (Keyed.get? s.previews id).getD (.ofPanel .landing)

/-- What an event is about that brings no page. -/
inductive Topic where
  | status
  | scroll
  | installPrompt
  | installResult

def Topic.name : Topic → String
  | .status => "status"
  | .scroll => "scroll"
  | .installPrompt => "installPrompt"
  | .installResult => "installResult"

inductive Act where
  | note (line : Log.Line)
  | turn (t : Turn)
  /-- The notices are taken. -/
  | take
  | say (topic : Topic) (body : List (String × Json))
  | reply (requestSeq : Nat) (command : String) (answer : Except String (Option Json))
  | draw (id : DocumentId)
  | land (id : DocumentId)
  | drop (id : DocumentId)
  | scroll (id : DocumentId) (line : Nat)
  | place (id : DocumentId) (placement : Binding.Placement)
  | show (id : DocumentId) (panel : Panel)
  | toggle (which : Toggle) (value : Bool)

/-- The response that an answer makes. -/
def response (requestSeq : Nat) (command : String) : Except String (Option Json) → Content
  | .ok body => .response requestSeq true command none body
  | .error message => .response requestSeq false command (some message) none

def Act.apply (site : Site) (s : Server) : Act → Server
  | .note line => { s with scheduler := s.scheduler.emit (.logged line) }
  | .turn t => { s with scheduler := t.apply s.scheduler }
  | .take => { s with scheduler := s.scheduler.takeNotices.1 }
  | .say topic body => spoken s topic.name body
  | .reply requestSeq command answer => posted s "response" (response requestSeq command answer)
  | .draw id => drawn site s id
  | .land id => landed s id
  | .drop id => { s with previews := Keyed.erase s.previews id }
  | .scroll id line => changed s id fun p => { p with scrollLine := line }
  | .place id placement => drawn site (changed s id fun p => { p with placed := some placement }) id
  | .show id panel => drawn site (withPreview s id { previewOf s id with panel }) id
  | .toggle which value =>
    (Keyed.keys s.previews).foldl (drawn site)
      { s with flags := Server.setToggle s.flags which value }

def perform (site : Site) (s : Server) (acts : List Act) : Server :=
  acts.foldl (Act.apply site) s

@[simp] theorem perform_nil (site : Site) (s : Server) : perform site s [] = s := rfl

@[simp] theorem perform_cons (site : Site) (s : Server) (a : Act) (acts : List Act) :
    perform site s (a :: acts) = perform site (a.apply site s) acts := rfl

@[simp] theorem perform_append (site : Site) (s : Server) (acts more : List Act) :
    perform site s (acts ++ more) = perform site (perform site s acts) more :=
  List.foldl_append

def Act.moves (s : Scheduler) : Act → Scheduler
  | .note line => s.emit (.logged line)
  | .turn t => t.apply s
  | .take => s.takeNotices.1
  | _ => s

theorem scheduler_drawn (site : Site) (s : Server) (id : DocumentId) :
    (drawn site s id).scheduler = s.scheduler := by
  unfold drawn
  split <;> rfl

theorem scheduler_changed (s : Server) (id : DocumentId) (f : Preview → Preview) :
    (changed s id f).scheduler = s.scheduler := by
  unfold changed
  split <;> rfl

theorem scheduler_foldl_drawn (site : Site) (ids : List DocumentId) (s : Server) :
    (ids.foldl (drawn site) s).scheduler = s.scheduler := by
  induction ids generalizing s with
  | nil => rfl
  | cons id rest ih => rw [List.foldl_cons, ih, scheduler_drawn]

theorem scheduler_apply (site : Site) (s : Server) (a : Act) :
    (a.apply site s).scheduler = a.moves s.scheduler := by
  cases a with
  | draw id => exact scheduler_drawn site s id
  | land id =>
    rw [Act.apply, landed]
    split <;> rfl
  | scroll id line => exact scheduler_changed s id _
  | place id placement => exact (scheduler_drawn ..).trans (scheduler_changed ..)
  | «show» id panel => exact scheduler_drawn ..
  | toggle which value => exact scheduler_foldl_drawn ..
  | _ => rfl

theorem scheduler_perform (site : Site) (s : Server) (acts : List Act) :
    (perform site s acts).scheduler = acts.foldl Act.moves s.scheduler := by
  induction acts generalizing s with
  | nil => rfl
  | cons a acts ih => rw [perform_cons, ih, scheduler_apply, List.foldl_cons]

end TraceView.Proofs.Editor
