import TraceView.Proofs.Editor.Written

/-!
# The discipline of responses

A request is answered once, with its own number and command, and nothing else is answered. What the
server writes is numbered from one without a gap, a failure is all that its request leads to, and no
notice outlives the call that it came of. Whether a call keeps this does not depend on what was
called before, as long as no notice is left, so a run keeps it by induction.
-/
namespace TraceView.Proofs.Editor

open TraceView TraceView.Editor TraceView.Run TraceView.Proofs.Run

/-- The number and the command that the response to a call copies. -/
def Call.asks? (c : Call) : Option (Nat × String) :=
  c.request?.map fun r => (r.1, r.2.1)

/-- One call is answered as it should be. -/
structure Answers (c : Call) (s : Server) : Prop where
  ends : ∃ goesOn, c.run s = (.ok goesOn, c.apply s)
  written : Extends s (c.apply s)
  responses : (wrote s (c.apply s)).filterMap answered? = c.asks?.toList
  failure : ∀ m ∈ wrote s (c.apply s), isFailure m = true → wrote s (c.apply s) = [m]
  flushed : (c.apply s).scheduler.notices = []

/-- So are all calls of a run, and the numbers go up by one from one. -/
structure Disciplined (s : Server) (calls : List Call) : Prop where
  numbers : (serve s calls).sent.map (·.seq) = List.range' 1 (serve s calls).sent.length
  responses : (serve s calls).sent.filterMap answered? = calls.filterMap Call.asks?
  answers : ∀ before c after, calls = before ++ c :: after → Answers c (serve s before)

variable {s s' s'' : Server} {site : Site} {acts : List Act}

theorem no_reply_cons {a : Act} (h : a.isReply = false) (hacts : ∀ b ∈ acts, b.isReply = false) :
    ∀ b ∈ a :: acts, b.isReply = false :=
  List.forall_mem_cons.mpr ⟨h, hacts⟩

theorem note_no_reply (line : Log.Line) : ∀ a ∈ [Act.note line], a.isReply = false :=
  no_reply_cons rfl (List.forall_mem_nil _)

theorem Handled.no_reply {now : Nat} {command : String} {arguments : Option Json}
    {answer : Except String (Option Json)} (h : Handled site now s command arguments answer acts) :
    ∀ a ∈ acts, a.isReply = false := by
  cases h <;> simp [Act.isReply]

/-- A handler that fails writes nothing and leaves nothing to be told. -/
theorem Handled.failed {now : Nat} {command message : String} {arguments : Option Json}
    (h : Handled site now s command arguments (.error message) acts)
    (hs : s.scheduler.notices = []) : (perform site s acts).sent = s.sent ∧
      (perform site s acts).scheduler.notices = [] := by
  cases h with
  | refused | unknown => exact ⟨rfl, hs⟩
  | installRefused _ _ hquiet => exact ⟨rfl, hquiet.trans hs⟩

theorem noticeActs_moves (n : Notice) (s : Scheduler) :
    (noticeActs n).foldl Act.moves s = s := by
  cases n <;> rfl

theorem flushActs_no_reply (ns : List Notice) : ∀ a ∈ flushActs ns, a.isReply = false := by
  intro a ha
  have htells := flushActs_tell ns a ha
  cases a with
  | reply => cases htells
  | _ => rfl

theorem flatMap_noticeActs_moves (ns : List Notice) (s : Scheduler) :
    (ns.flatMap noticeActs).foldl Act.moves s = s := by
  induction ns with
  | nil => rfl
  | cons n rest ih => rw [List.flatMap_cons, List.foldl_append, noticeActs_moves, ih]

theorem notices_flush (site : Site) (s : Server) (ns : List Notice) :
    (perform site s (flushActs ns)).scheduler.notices = [] := by
  rw [scheduler_perform, flushActs, List.foldl_cons, flatMap_noticeActs_moves]
  rfl

theorem answered?_reply (n seq : Nat) (kind command : String)
    (answer : Except String (Option Json)) :
    answered? ⟨n, kind, response seq command answer⟩ = some (seq, command) := by
  cases answer <;> rfl

variable {before after : List Act} {seq : Nat} {command : String}
  {answer : Except String (Option Json)}

/-- What is written around a reply, in order. -/
theorem wrote_around (site : Site) (s : Server) (before after : List Act) (seq : Nat)
    (command : String) (answer : Except String (Option Json)) :
    wrote s (perform site s (before ++ .reply seq command answer :: after)) =
      wrote s (perform site s before) ++
        ⟨(perform site s before).seq + 1, "response", response seq command answer⟩ ::
          wrote ((Act.reply seq command answer).apply site (perform site s before))
            (perform site ((Act.reply seq command answer).apply site (perform site s before))
              after) := by
  have hreply : wrote (perform site s before)
      ((Act.reply seq command answer).apply site (perform site s before)) =
        [⟨(perform site s before).seq + 1, "response", response seq command answer⟩] :=
    wrote_posted ..
  rw [perform_append, perform_cons, (extends_perform ..).wrote_trans
    ((extends_apply ..).trans (extends_perform ..)), (extends_apply ..).wrote_trans
    (extends_perform ..), hreply, List.singleton_append]

theorem not_failure (h : ∀ a ∈ acts, a.isReply = false) {m : Message}
    (hm : m ∈ wrote s (perform site s acts)) : isFailure m = false :=
  (speaks_perform site s h).events.not_failure hm

/-- A reply between events is the only response. -/
theorem responses_around (hb : ∀ a ∈ before, a.isReply = false)
    (ha : ∀ a ∈ after, a.isReply = false) :
    (wrote s (perform site s (before ++ .reply seq command answer :: after))).filterMap answered?
      = [(seq, command)] := by
  rw [wrote_around, List.filterMap_append, (speaks_perform site s hb).events.responses,
    List.filterMap_cons_some (answered?_reply ..), (speaks_perform site _ ha).events.responses]
  rfl

/-- Only an error makes a failure. -/
theorem failure_around (hb : ∀ a ∈ before, a.isReply = false)
    (ha : ∀ a ∈ after, a.isReply = false) {m : Message}
    (hm : m ∈ wrote s (perform site s (before ++ .reply seq command answer :: after)))
    (hf : isFailure m = true) :
    (∃ message, answer = .error message) ∧
      m = ⟨(perform site s before).seq + 1, "response", response seq command answer⟩ := by
  rw [wrote_around] at hm
  rcases List.mem_append.mp hm with hm | hm
  · exact absurd hf (by simp [not_failure hb hm])
  rcases List.mem_cons.mp hm with rfl | hm
  · cases answer with
    | ok body => cases hf
    | error message => exact ⟨⟨message, rfl⟩, rfl⟩
  · exact absurd hf (by simp [not_failure ha hm])

theorem Performs.responses {c : Call} {goesOn : Bool} (h : Performs c s goesOn acts) :
    (wrote s (perform c.site s acts)).filterMap answered? = c.asks?.toList := by
  cases h with
  | ignored hreq =>
    rw [Call.asks?, hreq]
    exact (speaks_perform c.site s (note_no_reply _)).events.responses
  | goodbye hreq =>
    rw [Call.asks?, hreq]
    exact responses_around (note_no_reply _) (List.forall_mem_nil _)
  | answered hreq hhandled =>
    rw [Call.asks?, hreq]
    exact responses_around (no_reply_cons rfl hhandled.no_reply)
      (flushActs_no_reply _)
  | passed hreq =>
    rw [Call.asks?, hreq]
    exact (speaks_perform c.site s (no_reply_cons rfl (flushActs_no_reply _))).events.responses

/-- After a failure nothing is told, so it stands alone. -/
theorem Performs.failure {c : Call} {goesOn : Bool} (h : Performs c s goesOn acts)
    (hs : s.scheduler.notices = []) {m : Message} (hm : m ∈ wrote s (perform c.site s acts))
    (hf : isFailure m = true) : wrote s (perform c.site s acts) = [m] := by
  cases h with
  | ignored =>
    exact absurd hf (by simp [not_failure (note_no_reply _) hm])
  | goodbye =>
    obtain ⟨⟨message, hanswer⟩, -⟩ :=
      failure_around (note_no_reply _) (List.forall_mem_nil _) hm hf
    cases hanswer
  | answered hreq hhandled =>
    obtain ⟨⟨message, rfl⟩, rfl⟩ := failure_around
      (no_reply_cons rfl hhandled.no_reply) (flushActs_no_reply _) hm hf
    -- Neither the handler nor the flush that follows has anything to write.
    obtain ⟨hsent, hquiet⟩ := hhandled.failed hs
    have htold : c.told s = [] := (told_answered hs hreq hhandled).symm.trans hquiet
    rw [wrote_around, htold, wrote_of_same (by rw [perform_cons, hsent]; rfl)]
    rw [wrote_of_same (by rfl)]
    rfl
  | passed =>
    exact absurd hf (by simp [not_failure (no_reply_cons rfl (flushActs_no_reply _)) hm])

theorem Performs.flushed {c : Call} {goesOn : Bool} (h : Performs c s goesOn acts)
    (hs : s.scheduler.notices = []) : (perform c.site s acts).scheduler.notices = [] := by
  cases h with
  | ignored | goodbye => exact hs
  | answered =>
    rw [perform_append, perform_cons]
    exact notices_flush ..
  | passed =>
    rw [perform_cons]
    exact notices_flush ..

/-- A call that finds no notices is answered as it should be. -/
theorem answers {c : Call} (hc : c.Unbroken) (hs : s.scheduler.notices = []) : Answers c s := by
  obtain ⟨goesOn, acts, hrun, hperforms⟩ := performs hc hs
  have happly : c.apply s = perform c.site s acts := congrArg Prod.snd hrun
  refine ⟨⟨goesOn, ?_⟩, ?_, ?_, ?_, ?_⟩
  all_goals rw [happly]
  · exact hrun
  · exact extends_perform ..
  · exact hperforms.responses
  · exact fun m => hperforms.failure hs
  · exact hperforms.flushed hs

/-- A run that finds no notices writes what its calls write, and leaves no notices. -/
theorem serve_answers {calls : List Call} (hcalls : ∀ c ∈ calls, c.Unbroken)
    (hs : s.scheduler.notices = []) : Extends s (serve s calls) ∧
      (wrote s (serve s calls)).filterMap answered? = calls.filterMap Call.asks? ∧
      (serve s calls).scheduler.notices = [] := by
  -- Each call finds no notices because the one before it has flushed them.
  induction calls generalizing s with
  | nil =>
    have hnone : Speaks s s := speaks_of_same rfl rfl rfl
    exact ⟨hnone.toExtends, hnone.events.responses, hs⟩
  | cons c rest ih =>
    have hc := answers (hcalls c List.mem_cons_self) hs
    obtain ⟨hext, hresp, hquiet⟩ := ih (fun c hc => hcalls c (List.mem_cons_of_mem _ hc)) hc.flushed
    refine ⟨hc.written.trans hext, ?_, hquiet⟩
    rw [serve_cons, hc.written.wrote_trans hext, List.filterMap_append, hc.responses, hresp]
    cases hask : c.asks? with
    | none => rw [List.filterMap_cons_none hask, Option.toList_none, List.nil_append]
    | some r => rw [List.filterMap_cons_some hask, Option.toList_some, List.singleton_append]

/-- Every run of a new server whose messages can be written is disciplined. -/
theorem disciplined (availability : Availability) (options : Options) (settings : Settings)
    (calls : List Call) (hcalls : ∀ c ∈ calls, c.Unbroken) :
    Disciplined (fresh availability options settings) calls := by
  obtain ⟨hext, hresp, -⟩ := serve_answers (s := fresh availability options settings) hcalls rfl
  refine ⟨hext.numbers, hresp, fun before c after hsplit => ?_⟩
  subst hsplit
  have hbefore : ∀ c ∈ before, c.Unbroken := fun c hc => hcalls c (List.mem_append_left _ hc)
  obtain ⟨-, -, hquiet⟩ := serve_answers (s := fresh availability options settings) hbefore rfl
  exact answers (hcalls c (List.mem_append_right _ List.mem_cons_self)) hquiet

/-- A site at which everything succeeds. -/
def willing : Site :=
  { obliging with flush := fun _ => none, token := Page.numberedToken }

/-- A call at that site. -/
def asking (now seq : Nat) (command : String) (arguments : Option Json) : Call :=
  ⟨willing, now, .message ⟨seq, "request", .request command arguments⟩⟩

/-- Arguments are missing, a run is probed for, prompted for and installed for in vain, a stray
response comes in, and a command is not known. -/
def exchanges : List Call :=
  let text := some (.ofFields [("document", .string "d"), ("text", .string "x = 1")])
  let name := some (.ofFields [("document", .string "d")])
  [ asking 0 1 "open" text, asking 1 2 "save" none, asking 2 5 "save" text,
    ⟨willing, 3, .ended ⟨.probe "python", .exited (some 1) "" "no tracer"⟩⟩,
    ⟨willing, 4, .message ⟨9, "response", .response 1 true "open" none none⟩⟩,
    asking 5 6 "install" name, asking 6 6 "install" name, ⟨willing, 7, .tick⟩,
    asking 8 7 "fetch" none, asking 9 8 "disconnect" none ]

theorem disciplined_exchanges : (∀ c ∈ exchanges, c.Unbroken) ∧
    Disciplined (fresh [] plainOptions .default) exchanges ∧
    exchanges.filterMap Call.asks? = [(1, "open"), (2, "save"), (5, "save"), (6, "install"),
      (6, "install"), (7, "fetch"), (8, "disconnect")] := by
  have hcalls : ∀ c ∈ exchanges, c.Unbroken := by simp [exchanges, Call.Unbroken, asking, willing]
  exact ⟨hcalls, disciplined [] plainOptions .default exchanges hcalls, by decide⟩

end TraceView.Proofs.Editor
