import TraceView.Proofs.Editor.Aftermath
import TraceView.Proofs.Run.Standing

/-!
# What the last status tells

Starts and deliveries are told as they come, but nothing is told when a run is given up and its
document is made to wait for the interpreter instead. So the last status of a document says that it
is running exactly if it is, or if it was left waiting in this way and has not been settled since.
-/
namespace TraceView.Proofs.Editor

open TraceView TraceView.Editor TraceView.Run TraceView.Proofs.Run

/-- What a message says of whether a document runs, if it is a status of that document. -/
def statusOf? (d : DocumentId) (m : Message) : Option Bool :=
  match m.content with
  | .event "status" (some body) => do
    let id ← body.field? "document" >>= asString?
    let running ← body.field? "running" >>= asBool?
    if id = d then some running else none
  | _ => none

/-- What calls write after the document was last closed; `old` was written before them. -/
def writtenOpen (d : DocumentId) (old : List Message) (s : Server) : List Call → List Message
  | [] => old
  | c :: rest =>
    writtenOpen d ((if c.closes d then [] else old) ++ wrote s (c.apply s)) (c.apply s) rest

/-- What the last status of the document says that was written since it was last closed. -/
def lastStatus? (d : DocumentId) (start : Server) (calls : List Call) : Option Bool :=
  ((writtenOpen d [] start calls).filterMap (statusOf? d)).getLast?

/-- What a call decides about a document. -/
def Call.decisions (c : Call) (s : Server) (d : DocumentId) : List Decision :=
  match c.turn? s with
  | some t => t.decisions (c.found s) d
  | none => []

/-- The call neither closes the document nor launches it, with or without success. -/
structure Unsettled (c : Call) (s : Server) (d : DocumentId) : Prop where
  undecided : ∀ decision ∈ c.decisions s d, settled? decision = none
  unclosed : c.closes d = false

/-- A run of the document was given up by a call that made the document wait, and no call has
settled that since. -/
def LeftWaiting (start : Server) (calls : List Call) (d : DocumentId) : Prop :=
  ∃ before c after, calls = before ++ c :: after ∧
    isRunning (serve start before).scheduler d = true ∧
    (∃ decision ∈ c.decisions (serve start before) d, isWaiting decision = true) ∧
    ∀ mid u rest, after = mid ++ u :: rest → Unsettled u (serve start (before ++ c :: mid)) d

variable {s start : Server} {c : Call} {d : DocumentId} {calls : List Call}

theorem statusOf_notice (n : Notice) (seq : Nat) (d : DocumentId) :
    statusOf? d ⟨seq, "event", .event (noticeEvent n).1.name (some (.ofFields (noticeEvent n).2))⟩ =
      statusTold d n := by
  cases n with
  | runStarted | delivered =>
    simp [statusOf?, noticeEvent, statusTold, Topic.name, Json.field?, Json.ofFields, Keyed.ofList,
      Keyed.get?_insert, asString?, asBool?]
  | installPrompt | installFinished => rfl

/-- The statuses that a call writes are those that its turn has told. -/
theorem statuses_call (hs : Ready s) (hc : c.Unbroken) (d : DocumentId) :
    (wrote s (c.apply s)).filterMap (statusOf? d) = (c.told s).filterMap (statusTold d) := by
  obtain ⟨goesOn, acts, happly, hperforms⟩ := performed hc hs.quiet
  obtain ⟨scrolled, hscrolls, hsaid⟩ := hperforms.said
  have hwritten := @filterMap_perform _ (statusOf? d)
    (fun x => statusOf? d ⟨0, "event", .event x.1.name (some (.ofFields x.2))⟩) (fun _ _ _ => rfl)
    (fun _ _ _ answer => by cases answer <;> rfl) (fun _ _ => rfl) c.site s acts
  have hnone : scrolled.filterMap
      (fun x => statusOf? d ⟨0, "event", .event x.1.name (some (.ofFields x.2))⟩) = [] := by
    refine List.filterMap_eq_nil_iff.mpr fun x hx => ?_
    obtain ⟨id, line, -, rfl⟩ := hscrolls x hx
    rfl
  rw [happly, hwritten, hsaid, List.filterMap_append, hnone, List.nil_append, List.filterMap_map]
  exact List.filterMap_congr fun n _ => statusOf_notice n 0 d

theorem isRunning_congr {x y : Scheduler} (h : y.documents = x.documents) (d : DocumentId) :
    isRunning y d = isRunning x d := by
  rw [isRunning, Scheduler.phase, Scheduler.slot?, h, isRunning, Scheduler.phase, Scheduler.slot?]

/-- Every call treats a document in one of the ways. -/
theorem standing_call (hs : Ready s) (hc : c.Unbroken) (d : DocumentId) :
    Standing (c.decisions s d) (c.closes d = true) ((wrote s (c.apply s)).filterMap (statusOf? d))
      (isRunning s.scheduler d) (isRunning (c.apply s).scheduler d) := by
  have hbefore := isRunning_congr (documents_found c s) d
  have hafter := isRunning_congr (hs.apply hc).1.documents d
  have hcloses := closes_iff c s d
  rw [statuses_call hs hc, hafter, ← hbefore, Call.decisions, Call.told, Call.moved]
  cases ht : c.turn? s with
  | none =>
    refine .aside rfl (fun hclose => ?_) rfl rfl
    obtain ⟨t, ht', -⟩ := hcloses.mp hclose
    cases ht.symm.trans ht'
  | some t =>
    have hmove : (c.closes d = true) = (t.move = .close d) := by
      rw [hcloses, ht]
      simp
    have hm : t.move ≠ .reissue d := by
      intro hm
      have hasker : t.move.asker? = some d := by rw [hm, Move.asker?]
      obtain ⟨_, _, _, _, -, -, -, hasks⟩ := asks_of_asker ht hasker
      rw [hm] at hasks
      cases hasks
    rw [hmove]
    exact standing (hs.found c) t d hm

theorem writtenOpen_snoc (d : DocumentId) (old : List Message) (s : Server) (calls : List Call)
    (c : Call) : writtenOpen d old s (calls ++ [c]) =
      (if c.closes d then [] else writtenOpen d old s calls) ++
        wrote (serve s calls) (c.apply (serve s calls)) := by
  induction calls generalizing s old with
  | nil => rfl
  | cons u rest ih => exact ih _ (u.apply s)

theorem lastStatus_snoc (d : DocumentId) (start : Server) (calls : List Call) (c : Call) :
    lastStatus? d start (calls ++ [c]) =
      ((wrote (serve start calls) (c.apply (serve start calls))).filterMap
        (statusOf? d)).getLast?.or (if c.closes d then none else lastStatus? d start calls) := by
  rw [lastStatus?, writtenOpen_snoc, List.filterMap_append, List.getLast?_append, lastStatus?]
  split <;> rfl

theorem leftWaiting_nil (start : Server) (d : DocumentId) : ¬ LeftWaiting start [] d := by
  rintro ⟨before, c, after, he, -⟩
  simp at he

/-- A document is left waiting by the last call or was before it, which has not settled that. -/
theorem leftWaiting_snoc : LeftWaiting start (calls ++ [c]) d ↔
    (isRunning (serve start calls).scheduler d = true ∧
      ∃ decision ∈ c.decisions (serve start calls) d, isWaiting decision = true) ∨
    (LeftWaiting start calls d ∧ Unsettled c (serve start calls) d) := by
  constructor
  · rintro ⟨before, u, after, he, hrun, hwait, hsince⟩
    rcases split_snoc he with ⟨rfl, rfl, rfl⟩ | ⟨rest, rfl, rfl⟩
    · exact .inl ⟨hrun, hwait⟩
    · refine .inr ⟨⟨before, u, rest, rfl, hrun, hwait, ?_⟩, hsince rest c [] rfl⟩
      intro mid v rest' hm
      exact hsince mid v (rest' ++ [c]) (by simp [hm])
  · rintro (⟨hrun, hwait⟩ | ⟨⟨before, u, after, rfl, hrun, hwait, hsince⟩, hc⟩)
    · refine ⟨calls, c, [], rfl, hrun, hwait, fun mid v rest hm => ?_⟩
      simp at hm
    · refine ⟨before, u, after ++ [c], by simp, hrun, hwait, fun mid v rest hm => ?_⟩
      rcases split_snoc hm with ⟨rfl, rfl, rfl⟩ | ⟨rest', rfl, rfl⟩
      · exact hc
      · exact hsince mid v rest' rfl

theorem settled_of_waiting {decision : Decision} (h : isWaiting decision = true) :
    settled? decision = none := by
  cases decision with
  | awaitingAvailability => rfl
  | notRun reason =>
    cases reason with
    | unavailable => rfl
    | launchFailed | noRequest => cases h
  | launched | debounced => cases h

theorem waiting_of_settled {decision : Decision} {b : Bool} (h : settled? decision = some b) :
    isWaiting decision = false := by
  refine eq_false_of_ne_true fun hw => ?_
  rw [settled_of_waiting hw] at h
  cases h

/-- The last status tells whether the document runs or was left waiting, which excludes each
other. -/
structure Told (start : Server) (calls : List Call) (d : DocumentId) : Prop where
  last : lastStatus? d start calls = some true ↔
    isRunning (serve start calls).scheduler d = true ∨ LeftWaiting start calls d
  apart : LeftWaiting start calls d → isRunning (serve start calls).scheduler d = false

/-- One call keeps the last status telling. -/
theorem Told.snoc (h : Told start calls d) (hs : Ready (serve start calls)) (hc : c.Unbroken) :
    Told start (calls ++ [c]) d := by
  have hserve : serve start (calls ++ [c]) = c.apply (serve start calls) := serve_append ..
  cases standing_call hs hc d with
  | @settled decision b hd hb hclose ht hr =>
    have hleft : ¬ LeftWaiting start (calls ++ [c]) d := by
      rw [leftWaiting_snoc, hd]
      rintro (⟨-, decision', hmem, hw⟩ | ⟨-, hunsettled, -⟩)
      · cases List.mem_singleton.mp hmem
        rw [waiting_of_settled hb] at hw
        cases hw
      · rw [hunsettled decision (hd ▸ List.mem_singleton_self _)] at hb
        cases hb
    refine ⟨?_, fun hl => absurd hl hleft⟩
    rw [lastStatus_snoc, ht, hserve, hr]
    simp [hleft]
  | @shelved decision hd hw hclose ht hr =>
    have hclose := eq_false_of_ne_true hclose
    have hunsettled : Unsettled c (serve start calls) d := by
      refine ⟨fun decision' hmem => ?_, hclose⟩
      rw [hd] at hmem
      cases List.mem_singleton.mp hmem
      exact settled_of_waiting hw
    have hleft : LeftWaiting start (calls ++ [c]) d ↔
        isRunning (serve start calls).scheduler d = true ∨ LeftWaiting start calls d := by
      rw [leftWaiting_snoc, hd]
      simp [hw, hunsettled]
    refine ⟨?_, fun _ => by rw [hserve, hr]⟩
    rw [lastStatus_snoc, ht, hserve, hr, hleft, hclose]
    simpa using h.last
  | delivered hd hclose ht hb hr =>
    have hleft : ¬ LeftWaiting start (calls ++ [c]) d := by
      rw [leftWaiting_snoc, hd]
      rintro (⟨-, decision, hmem, -⟩ | ⟨hl, -⟩)
      · cases hmem
      · rw [h.apart hl] at hb
        cases hb
    refine ⟨?_, fun hl => absurd hl hleft⟩
    rw [lastStatus_snoc, ht, hserve, hr]
    simp [hleft]
  | closed hd hclose ht hr =>
    have hleft : ¬ LeftWaiting start (calls ++ [c]) d := by
      rw [leftWaiting_snoc, hd]
      rintro (⟨-, decision, hmem, -⟩ | ⟨-, hunsettled⟩)
      · cases hmem
      · rw [hunsettled.unclosed] at hclose
        cases hclose
    refine ⟨?_, fun hl => absurd hl hleft⟩
    rw [lastStatus_snoc, ht, hserve, hr, hclose]
    simp [hleft]
  | aside hd hclose ht hr =>
    have hclose := eq_false_of_ne_true hclose
    have hunsettled : Unsettled c (serve start calls) d := by
      refine ⟨fun decision hmem => ?_, hclose⟩
      rw [hd] at hmem
      cases hmem
    have hleft : LeftWaiting start (calls ++ [c]) d ↔ LeftWaiting start calls d := by
      rw [leftWaiting_snoc, hd]
      simp [hunsettled]
    refine ⟨?_, fun hl => ?_⟩
    · rw [lastStatus_snoc, ht, hserve, hr, hleft, hclose]
      simpa using h.last
    · rw [hserve, hr]
      exact h.apart (hleft.mp hl)

theorem told_run (hs : Ready start) (hstart : isRunning start.scheduler d = false)
    (hcalls : ∀ c ∈ calls, c.Unbroken) : Told start calls d := by
  induction calls using List.reverseRecOn with
  | nil =>
    have hnone : lastStatus? d start [] = none := rfl
    refine ⟨?_, fun h => absurd h (leftWaiting_nil start d)⟩
    simp [hnone, hstart, leftWaiting_nil]
  | append_singleton past c ih =>
    have hpast : ∀ c ∈ past, c.Unbroken := fun c hc => hcalls c (List.mem_append_left _ hc)
    exact (ih hpast).snoc (ready_serve hpast hs)
      (hcalls c (List.mem_append_right _ (List.mem_singleton_self c)))

/-- In every run of a new server whose messages can be written, the last status of a document since
it was closed says that it is running exactly if it is running or was left waiting. -/
theorem running_status_iff (availability : Availability) (options : Options) (settings : Settings)
    (calls : List Call) (hcalls : ∀ c ∈ calls, c.Unbroken) (d : DocumentId) :
    lastStatus? d (fresh availability options settings) calls = some true ↔
      isRunning (serve (fresh availability options settings) calls).scheduler d = true ∨
        LeftWaiting (fresh availability options settings) calls d :=
  (told_run (ready_fresh availability options settings) rfl hcalls).last

/-- A document runs, the tracer cannot be started for another, and the document is run again: its
run is given up while the tracer is probed for. -/
def overtaken : List Call :=
  let save := fun site now seq document text => Call.mk site now (.message ⟨seq, "request",
    .request "save" (some (.ofFields [("document", .string document), ("text", .string text)]))⟩)
  [ save willing 0 1 "a" "one",
    save { willing with spawn := fun _ _ _ => some ⟨.notFound, "gone"⟩ } 1 2 "b" "two",
    save willing 2 3 "a" "three" ]

theorem unbroken_overtaken : ∀ c ∈ overtaken, c.Unbroken := by
  simp [overtaken, Call.Unbroken, willing]

theorem running_status_iff_overtaken :
    let start := fresh (.withVerdict "python" true) plainOptions .default
    (∀ c ∈ overtaken, c.Unbroken) ∧
      (lastStatus? "a" start overtaken = some true ↔
        isRunning (serve start overtaken).scheduler "a" = true ∨ LeftWaiting start overtaken "a") ∧
      lastStatus? "a" start overtaken = some true ∧
      lastStatus? "b" start overtaken = some false :=
  ⟨unbroken_overtaken, running_status_iff (.withVerdict "python" true) plainOptions .default
    overtaken unbroken_overtaken "a", by decide +kernel, by decide +kernel⟩

/-- The last status alone does not tell whether a document runs. -/
theorem last_status_overtaken :
    ¬ ∀ (availability : Availability) (options : Options) (settings : Settings)
      (calls : List Call), (∀ c ∈ calls, c.Unbroken) → ∀ d,
        ((serve (fresh availability options settings) calls).scheduler.slot? d).isSome →
        (lastStatus? d (fresh availability options settings) calls).isSome →
        (lastStatus? d (fresh availability options settings) calls = some true ↔
          isRunning (serve (fresh availability options settings) calls).scheduler d = true) := by
  intro h
  have hiff := h (.withVerdict "python" true) plainOptions .default overtaken unbroken_overtaken
    "a" (by decide +kernel) (by decide +kernel)
  have hlast : lastStatus? "a" (fresh (.withVerdict "python" true) plainOptions .default) overtaken
      = some true := by decide +kernel
  have hidle : isRunning (serve (fresh (.withVerdict "python" true) plainOptions .default)
      overtaken).scheduler "a" = false := by decide +kernel
  rw [hiff.mp hlast] at hidle
  cases hidle

end TraceView.Proofs.Editor
