import TraceView.Proofs.Run.Lifecycle
import TraceView.Proofs.Run.Prompts

/-!
# States and the turns that led to them

A state is reached by turns, between which its notices are read and its events carried out. What was
told is then no longer in it, so it is kept beside it: the turns, each with the state it was taken
in. Tokens that were told are not given out again, and who is marked was prompted.
-/
namespace TraceView.Proofs.Run

open TraceView.Run

/-- The states that can be reached, and the turns on the way. Between turns the notices are read,
the events are carried out, and the owner writes to the log. -/
inductive Reaches (start : Scheduler) : List (Scheduler × Turn) → Scheduler → Prop where
  | start : Reaches start [] start
  | turn {past s} (t : Turn) (h : Reaches start past s) :
      Reaches start (past ++ [(s, t)]) (t.apply s)
  | read {past s} (h : Reaches start past s) : Reaches start past s.takeNotices.1
  | carried {past s} (h : Reaches start past s) : Reaches start past s.takeEvents.1
  | logged {past s} (line : Log.Line) (h : Reaches start past s) :
      Reaches start past (s.emit (.logged line))

/-- Turns, each with the state it is taken in. -/
def trail (s : Scheduler) : List Turn → List (Scheduler × Turn)
  | [] => []
  | t :: turns => (s, t) :: trail (t.apply s) turns

def tokenOf? : Notice → Option Token
  | .runStarted _ token | .delivered _ token _ => some token
  | .installPrompt .. | .installFinished .. => none

/-- The tokens that were told. Each token that is given out is told at once, as that of a run or of
one that could not be started. -/
def tokens (past : List (Scheduler × Turn)) : List Token :=
  past.flatMap fun v => (v.2.told v.1).filterMap tokenOf?

/-- A document has been prompted, and all turns since have kept to something. -/
def PromptedWhile (keeps : Scheduler × Turn → Prop) (d : DocumentId) :
    List (Scheduler × Turn) → Prop
  | [] => False
  | v :: later => (0 < v.2.prompts v.1 d ∧ ∀ w ∈ later, keeps w) ∨ PromptedWhile keeps d later

instance PromptedWhile.decidable (keeps : Scheduler × Turn → Prop) [DecidablePred keeps]
    (d : DocumentId) : ∀ past, Decidable (PromptedWhile keeps d past)
  | [] => inferInstanceAs (Decidable False)
  | v :: later =>
    have : Decidable (PromptedWhile keeps d later) := PromptedWhile.decidable keeps d later
    inferInstanceAs (Decidable ((0 < v.2.prompts v.1 d ∧ ∀ w ∈ later, keeps w) ∨
      PromptedWhile keeps d later))

/-- Neither is the document closed nor does a verdict come: no probe completes and no install
succeeds. -/
def KeepsPrompt (interpreter : Path) (d : DocumentId) (v : Scheduler × Turn) : Prop :=
  ¬ Renews interpreter v.2.move ∧ v.2.move ≠ .close d

variable {start s s' : Scheduler} {past : List (Scheduler × Turn)} {t : Turn} {d : DocumentId}
  {l : List Act} {a : Act} {keeps : Scheduler × Turn → Prop} {v : Scheduler × Turn}

theorem Reaches.play (h : Reaches start past s) (turns : List Turn) :
    Reaches start (past ++ trail s turns) (Run.play s turns) := by
  induction turns generalizing past s with
  | nil =>
    rw [trail, List.append_nil]
    exact h
  | cons t turns ih =>
    rw [trail, List.append_cons]
    exact ih (h.turn t)

theorem reaches_play (start : Scheduler) (turns : List Turn) :
    Reaches start (trail start turns) (Run.play start turns) :=
  Reaches.start.play turns

theorem PromptedWhile.keep (h : PromptedWhile keeps d past) (hv : keeps v) :
    PromptedWhile keeps d (past ++ [v]) := by
  induction past with
  | nil => cases h
  | cons u later ih =>
    rcases h with ⟨hu, hlater⟩ | h
    · refine .inl ⟨hu, fun w hw => ?_⟩
      rcases List.mem_append.mp hw with hw | hw
      · exact hlater w hw
      · exact List.mem_singleton.mp hw ▸ hv
    · exact .inr (ih h)

theorem promptedWhile_concat (h : 0 < v.2.prompts v.1 d) :
    PromptedWhile keeps d (past ++ [v]) := by
  induction past with
  | nil => exact .inl ⟨h, fun w hw => nomatch hw⟩
  | cons u later ih => exact .inr ih

theorem token_le_does (hf : Formed s) (hg : Aged s) (h : Does s a s') :
    ∀ k ∈ a.notices.filterMap tokenOf?, k ≤ s'.lastToken := by
  intro k hk
  cases h with
  | start | miscopy | refuse =>
    cases List.mem_singleton.mp hk
    exact Nat.le_refl _
  | @accept id token slot run outcome delivery es hs hl ha =>
    obtain rfl : k = token := List.mem_singleton.mp hk
    -- what is delivered is the active run, which has a token that was given out
    have hlatest := (hf.sound hs).latest
    rw [hl, ha] at hlatest
    rw [Option.some.inj hlatest]
    exact (hg.running id run ((bind_slot _ hs).trans ha)).1
  | _ => cases hk

theorem token_le_acts (hf : Formed s) (hg : Aged s) (h : Acts s l s') :
    ∀ k ∈ (l.flatMap Act.notices).filterMap tokenOf?, k ≤ s'.lastToken := by
  induction h with
  | nil => nofun
  | cons first rest ih =>
    intro k hk
    rw [List.flatMap_cons, List.filterMap_append] at hk
    rcases List.mem_append.mp hk with hk | hk
    · exact Nat.le_trans (token_le_does hf hg first k hk) (counts_acts rest).2
    · exact ih (hf.does first) (hg.does hf first) k hk

/-- What holds of a state by the turns that led to it. -/
structure Tracked (start : Scheduler) (past : List (Scheduler × Turn)) (s : Scheduler) : Prop where
  formed : Formed s
  aged : Aged s
  fit : Fit s
  interpreter : s.interpreter = start.interpreter
  tokens : ∀ k ∈ tokens past, k ≤ s.lastToken
  prompted : ∀ d, isPrompted s d = true →
    PromptedWhile (KeepsPrompt start.interpreter d) d past

theorem tracked_new (availability : Availability) (options : Options) :
    Tracked (.new availability options) [] (.new availability options) where
  formed := formed_new availability options
  aged := aged_new availability options
  fit := ⟨nofun, nofun⟩
  interpreter := rfl
  tokens := nofun
  prompted := nofun

/-- Who has the mark after a turn had it before, or is prompted in the turn. -/
theorem Marked.promptedWhile (h : Marked s t d) (hd : isPrompted (t.apply s) d = true)
    (hbefore : isPrompted s d = true → PromptedWhile (KeepsPrompt s.interpreter d) d past) :
    PromptedWhile (KeepsPrompt s.interpreter d) d (past ++ [(s, t)]) := by
  have hmark : mark (t.apply s) d = 1 := by
    rw [mark, hd]
    rfl
  rcases Nat.eq_zero_or_pos (t.prompts s d) with hzero | hpos
  · have hrenews : ¬ Renews s.interpreter t.move := by
      intro hr
      have hrenewed := h.renewed hr
      omega
    have hcloses : t.move ≠ .close d := by
      intro hc
      rw [(h.closed hc).2] at hmark
      cases hmark
    have hcounted := h.counted hrenews hcloses
    refine (hbefore ?_).keep ⟨hrenews, hcloses⟩
    cases hp : isPrompted s d with
    | true => rfl
    | false =>
      have hnone : mark s d = 0 := by
        rw [mark, hp]
        rfl
      omega
  · exact promptedWhile_concat hpos

theorem Tracked.turn (h : Tracked start past s) (t : Turn) :
    Tracked start (past ++ [(s, t)]) (t.apply s) := by
  obtain ⟨l, hl⟩ := turn_unfolds h.formed t
  refine ⟨h.formed.acts hl.acts, h.aged.acts h.formed hl.acts, hl.fit h.formed h.fit,
    (congrArg Options.interpreter (options_acts hl.acts)).trans h.interpreter, ?_, ?_⟩
  · intro k hk
    rw [Run.tokens, List.flatMap_append, List.flatMap_singleton] at hk
    rcases List.mem_append.mp hk with hk | hk
    · exact Nat.le_trans (h.tokens k hk) (counts_acts hl.acts).2
    · exact token_le_acts h.formed h.aged hl.acts k (hl.told ▸ hk)
  · intro d hd
    have hbefore := h.prompted d
    rw [← h.interpreter] at hbefore ⊢
    exact (hl.marked h.formed h.fit d).promptedWhile hd hbefore

theorem Reaches.tracked {availability : Availability} {options : Options}
    (h : Reaches (.new availability options) past s) :
    Tracked (.new availability options) past s := by
  induction h with
  | start => exact tracked_new availability options
  | turn t _ ih => exact ih.turn t
  | read _ ih | carried _ ih | logged _ _ ih =>
    exact ⟨ih.formed.congr rfl rfl, ⟨ih.aged.running, ih.aged.ended⟩,
      ⟨ih.fit.waits, ih.fit.unavailable⟩, ih.interpreter, ih.tokens, ih.prompted⟩

end TraceView.Proofs.Run
