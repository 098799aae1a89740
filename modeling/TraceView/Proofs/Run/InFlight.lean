import Mathlib.Data.List.Induction
import TraceView.Proofs.Run.Course

/-!
# Processes in flight

Processes are told apart by their tags, so those of one tag are counted: it has as many in flight as
were started and have not completed. In a run whose completions are those of started processes the
mark of a probe under way says whether one is in flight.
-/
namespace TraceView.Proofs.Run

open TraceView.Run
open TraceView.Proofs.KeyOrder

def isLaunch (tag : LaunchTag) : Event → Bool
  | .launched _ _ tag' => tag' = tag
  | _ => false

/-- How many processes of a tag were started. -/
def launchesOf (tag : LaunchTag) (es : List Event) : Nat := es.countP (isLaunch tag)

def isCompletion (tag : LaunchTag) (t : Turn) : Bool :=
  match t.move with
  | .complete completion => completion.tag = tag
  | _ => false

/-- How many processes of a tag were reported to have ended. -/
def completionsOf (tag : LaunchTag) (turns : List Turn) : Nat := turns.countP (isCompletion tag)

def InFlight (s : Scheduler) (past : List Turn) (tag : LaunchTag) : Prop :=
  completionsOf tag past < launchesOf tag (play s past).events

/-- Only started processes complete, and each at most once. -/
def Honest (s : Scheduler) (turns : List Turn) : Prop :=
  ∀ before t after completion, turns = before ++ t :: after → t.move = .complete completion →
    InFlight s before completion.tag

variable {s s' : Scheduler} {a : Act} {l : List Act} {t : Turn} {past : List Turn}

theorem honest_snoc (h : Honest s (past ++ [t])) :
    Honest s past ∧
      ∀ completion, t.move = .complete completion → InFlight s past completion.tag := by
  refine ⟨fun before u after completion he => ?_, fun completion => ?_⟩
  · exact h before u (after ++ [t]) completion (by simp [he])
  · exact h past t [] completion rfl

theorem Honest.take {later : List Turn} (h : Honest s (past ++ later)) : Honest s past := by
  intro before u after completion he
  exact h before u (after ++ later) completion (by simp [he])

instance (s : Scheduler) (past : List Turn) (tag : LaunchTag) : Decidable (InFlight s past tag) :=
  inferInstanceAs (Decidable (_ < _))

/-- Whether a process is in flight whose completion a turn brings, if it brings one. -/
def isDue (s : Scheduler) (past : List Turn) (t : Turn) : Bool :=
  match t.move with
  | .complete completion => decide (InFlight s past completion.tag)
  | _ => true

def isHonest (s : Scheduler) (past : List Turn) : List Turn → Bool
  | [] => true
  | t :: later => isDue s past t && isHonest s (past ++ [t]) later

theorem isDue_iff : isDue s past t = true ↔
    ∀ completion, t.move = .complete completion → InFlight s past completion.tag := by
  rw [isDue]
  split
  · next completion hm => simp [hm]
  · next hm => exact ⟨fun _ completion he => absurd he (hm completion), fun _ => rfl⟩

theorem isHonest_iff {turns : List Turn} : isHonest s past turns = true ↔
    ∀ before t after completion, turns = before ++ t :: after → t.move = .complete completion →
      InFlight s (past ++ before) completion.tag := by
  induction turns generalizing past with
  | nil => simp [isHonest]
  | cons u later ih =>
    rw [isHonest, Bool.and_eq_true, isDue_iff, ih]
    constructor
    · rintro ⟨hu, hlater⟩ before t after completion he hm
      cases before with
      | nil =>
        cases he
        rw [List.append_nil]
        exact hu completion hm
      | cons u' before =>
        cases he
        have hflight := hlater before t after completion rfl hm
        rwa [List.append_assoc] at hflight
    · intro h
      refine ⟨fun completion hm => ?_, fun before t after completion he hm => ?_⟩
      · have hflight := h [] u later completion rfl hm
        rwa [List.append_nil] at hflight
      · have hflight := h (u :: before) t after completion (by rw [he]; rfl) hm
        rwa [List.append_assoc]

instance (s : Scheduler) (turns : List Turn) : Decidable (Honest s turns) :=
  decidable_of_iff (isHonest s [] turns = true) isHonest_iff

theorem completionsOf_snoc (tag : LaunchTag) :
    completionsOf tag (past ++ [t]) =
      completionsOf tag past + if isCompletion tag t then 1 else 0 := by
  simp [completionsOf, List.countP_append, List.countP_cons]

theorem launchesOf_effects (tag : LaunchTag) (es : List Event) :
    launchesOf tag (effects es) = launchesOf tag es := by
  rw [launchesOf, launchesOf, effects, List.countP_filter]
  refine List.countP_congr fun e _ => ?_
  cases e <;> simp [isLaunch, isLogged]

theorem launchesOf_append (tag : LaunchTag) (es es' : List Event) :
    launchesOf tag (es ++ es') = launchesOf tag es + launchesOf tag es' :=
  List.countP_append ..

theorem launches_does (h : Does s a s') (tag : LaunchTag) :
    launchesOf tag s'.events = launchesOf tag s.events + launchesOf tag a.effects := by
  obtain ⟨es, he, hes⟩ := events_does h
  rw [he, launchesOf_append, ← hes, launchesOf_effects]

theorem launches_acts (h : Acts s l s') (tag : LaunchTag) :
    launchesOf tag s.events ≤ launchesOf tag s'.events := by
  induction h with
  | nil => exact Nat.le_refl _
  | cons first rest ih =>
    rw [launches_does first] at ih
    exact Nat.le_trans (Nat.le_add_right ..) ih

theorem launchesOf_prepare (tag : LaunchTag) (env : Surroundings) (options : Options)
    (snapshot : Snapshot) (scratch : Option Path) (asked : Nat) :
    launchesOf tag (prepare env options snapshot scratch asked).events = 0 := by
  refine List.countP_eq_zero.mpr fun e he => ?_
  cases copying_prepare env options snapshot scratch asked e he <;> simp [isLaunch]

/-- One if a probe of the configured interpreter is marked as under way. -/
def probes (s : Scheduler) : Nat := (s.availability.knowledge s.interpreter).probing.toNat

theorem probes_le (s : Scheduler) : probes s ≤ 1 := Bool.toNat_le _

theorem probing_of_status (h : s.availability.status s.interpreter = .probing) : probes s = 1 := by
  rw [Availability.status, Knowledge.status] at h
  rw [probes]
  split at h
  · cases h
  · cases h
  · split at h
    · next hp => rw [hp]; rfl
    · cases h

theorem probing_set {a : Availability} {p q : Path} {k : Knowledge}
    (h : k.probing = (a.knowledge p).probing) :
    ((a.set p k).knowledge q).probing = (a.knowledge q).probing := by
  rw [knowledge_set]
  split
  · next hsame => rw [h, knowledge_same hsame]
  · rfl

theorem probing_invalidate (a : Availability) (p q : Path) :
    ((a.invalidate p).knowledge q).probing = (a.knowledge q).probing :=
  probing_set rfl

theorem probing_finishInstall (a : Availability) (p q : Path) (success : Bool) :
    ((a.finishInstall p success).knowledge q).probing = (a.knowledge q).probing := by
  cases success <;> exact probing_set rfl

theorem probing_beginInstall {a a' : Availability} {p : Path} (h : a.beginInstall? p = some a')
    (q : Path) : (a'.knowledge q).probing = (a.knowledge q).probing := by
  simp only [Availability.beginInstall?] at h
  split at h
  · cases h
  · cases h
    exact probing_set rfl

theorem beginProbe_cases {a a' : Availability} {p : Path} (h : a.beginProbe? p = some a') :
    (a.knowledge p).probing = false ∧ (a'.knowledge p).probing = true := by
  simp only [Availability.beginProbe?] at h
  split at h
  · cases h
  · next hp =>
    cases h
    refine ⟨Bool.eq_false_iff.mpr hp, ?_⟩
    rw [knowledge_set, same_self, if_pos rfl]

theorem probing_finishProbe (a : Availability) (p : Path) (importable : Bool) :
    ((a.finishProbe p importable).knowledge p).probing = false := by
  rw [Availability.finishProbe, knowledge_set, same_self, if_pos rfl]

/-- Only the act of probing starts a probe, and it is one of the configured interpreter. -/
theorem launches_probe (h : Does s a s') (p : Path) :
    launchesOf (.probe p) a.effects = 0 ∨
      s.interpreter = p ∧ launchesOf (.probe p) a.effects = 1 ∧
        ∃ process spec, a = .probe process spec p := by
  cases h with
  | probe =>
    by_cases hp : s.interpreter = p
    · subst hp
      exact .inr ⟨rfl, by simp [launchesOf, Act.effects, isLaunch], _, _, rfl⟩
    · left
      simp [launchesOf, Act.effects, isLaunch, hp]
  | start hs ha hr hv hp =>
    subst hp
    left
    rw [Act.effects, launchesOf_append, launchesOf_prepare]
    simp [launchesOf, isLaunch]
  | miscopy hs ha hr hv hp =>
    subst hp
    exact .inl (launchesOf_prepare ..)
  | refuse hs ha hr hv hp =>
    subst hp
    left
    rw [Act.effects, launchesOf_append, launchesOf_prepare]
    simp [launchesOf, isLaunch]
  | install => exact .inl (by simp [launchesOf, Act.effects, isLaunch])
  | @close id slot es hs =>
    left
    cases slot.active.bind (·.process) <;> cases slot.scratch <;> rfl
  | _ => exact .inl rfl

theorem probes_congr (ho : s'.options = s.options)
    (hp : ∀ p, (s'.availability.knowledge p).probing = (s.availability.knowledge p).probing) :
    probes s' = probes s := by
  rw [probes, probes, Scheduler.interpreter, ho, hp]
  rfl

theorem probes_does (h : Does s a s') :
    probes s' = probes s ∨ (∃ process spec p, a = .probe process spec p) ∨
      ∃ p b, a = .judge p b := by
  have ho := options_does h
  cases h with
  | probe => exact .inr (.inl ⟨_, _, _, rfl⟩)
  | judge => exact .inr (.inr ⟨_, _, rfl⟩)
  | @probeRefused a' es hu hb hes =>
    left
    obtain ⟨hp, -⟩ := beginProbe_cases hb
    have hp' := probing_finishProbe a' s.interpreter false
    exact congrArg Bool.toNat (hp'.trans hp.symm)
  | @miscopy env p id slot snapshot fault delivery es =>
    refine .inl (probes_congr ho fun q => ?_)
    cases fault with
    | spawn => exact probing_invalidate _ _ q
    | sourceCopy => rfl
  | refuse => exact .inl (probes_congr ho fun q => probing_invalidate _ _ q)
  | @accept id token slot run outcome delivery es =>
    refine .inl (probes_congr ho fun q => ?_)
    change ((if _ then _ else _ : Availability).knowledge q).probing = _
    split
    · exact probing_invalidate _ _ q
    · rfl
  | install hb => exact .inl (probes_congr ho fun q => probing_beginInstall hb q)
  | @installRefused id a' es hb =>
    refine .inl (probes_congr ho fun q => ?_)
    exact (probing_finishInstall a' s.interpreter q false).trans (probing_beginInstall hb q)
  | @installed interpreter id success output es hes =>
    refine .inl (probes_congr ho fun q => ?_)
    cases success <;> exact probing_finishInstall _ interpreter q _
  | _ => exact .inl rfl

/-- Starts of probes and the mark of a probe under way go together, verdicts apart. -/
theorem balance_does (h : Does s a s') (ha : ∀ p b, a ≠ .judge p b) :
    launchesOf (.probe s.interpreter) s'.events + probes s =
      launchesOf (.probe s.interpreter) s.events + probes s' := by
  rw [launches_does h]
  by_cases hprobe : ∃ process spec p, a = .probe process spec p
  · obtain ⟨process, spec, p, rfl⟩ := hprobe
    cases h with
    | @probe a' es hu hb hes =>
      obtain ⟨hp, hp'⟩ := beginProbe_cases hb
      have hbefore : probes s = 0 := congrArg Bool.toNat hp
      have hone : launchesOf (.probe s.interpreter)
          (Act.probe s.processes s.options.probeSpec s.interpreter).effects = 1 := by
        simp [launchesOf, Act.effects, isLaunch]
      rw [hbefore, hone]
      exact congrArg (launchesOf (.probe s.interpreter) s.events + Bool.toNat ·) hp'.symm
  · have hsame : probes s' = probes s := by
      rcases probes_does h with hp | hp | ⟨p, b, rfl⟩
      · exact hp
      · exact absurd hp hprobe
      · exact absurd rfl (ha p b)
    rcases launches_probe h s.interpreter with hz | ⟨-, -, process, spec, he⟩
    · rw [hz, hsame, Nat.add_zero]
    · exact absurd ⟨process, spec, _, he⟩ hprobe

theorem balance_acts (h : Acts s l s') (hl : ∀ a ∈ l, ∀ p b, a ≠ .judge p b) :
    launchesOf (.probe s.interpreter) s'.events + probes s =
      launchesOf (.probe s.interpreter) s.events + probes s' := by
  induction h with
  | nil => rfl
  | @cons s mid s' a l first rest ih =>
    have hfirst := balance_does first (hl a List.mem_cons_self)
    have hrest := ih fun a ha => hl a (List.mem_cons_of_mem _ ha)
    have hi : mid.interpreter = s.interpreter := congrArg Options.interpreter (options_does first)
    rw [hi] at hrest
    omega

/-- The acts of which attempts are made; the documents they prompt wait for the interpreter. -/
def isAttempting (interpreter : Path) : Act → Bool
  | .prompt _ p _ => p = interpreter
  | .calm .. | .release .. | .kill .. | .park .. | .probe .. | .probeRefused .. | .start ..
  | .fail .. => true
  | _ => false

theorem Prompting.attempting {interpreter : Path} {ids : List DocumentId}
    (h : Prompting s interpreter ids l s') : ∀ a ∈ l, isAttempting interpreter a = true := by
  intro a ha
  obtain ⟨id, message, rfl⟩ := h.only a ha
  exact decide_eq_true rfl

theorem Attempt.attempting {id : DocumentId} {decision : Decision}
    (h : Attempt s id l decision s') : ∀ a ∈ l, isAttempting s.interpreter a = true := by
  cases h with
  | started | failed | probing | probed => simp [isAttempting]
  | unavailable hu hp hl =>
    intro a ha
    rcases List.mem_cons.mp ha with rfl | ha
    · rfl
    · exact hl.attempting a ha
  | unprobed hp h hl =>
    intro a ha
    rcases List.mem_cons.mp ha with rfl | ha
    · rfl
    rcases List.mem_cons.mp ha with rfl | ha
    · rfl
    · exact hl.attempting a ha

theorem Launch.attempting {id : DocumentId} {decision : Decision}
    (h : Launch s id l decision s') : ∀ a ∈ l, isAttempting s.interpreter a = true := by
  cases h with
  | mk begins first rest =>
    intro a ha
    rcases List.mem_cons.mp ha with rfl | ha
    · cases begins <;> rfl
    · rw [← interpreter_does first]
      exact rest.attempting a ha

theorem Round.attempting {calm : Bool} {ids : List DocumentId}
    {ds : List (DocumentId × Decision)} (h : Round calm s ids l ds s') :
    ∀ a ∈ l, isAttempting s.interpreter a = true := by
  induction h with
  | nil => simp
  | @cons s mid mid' s' id pre l l' decision ids ds hpre first launch rest ih =>
    have hmid : mid.interpreter = s.interpreter :=
      congrArg Options.interpreter (options_acts first)
    have hmid' : mid'.interpreter = mid.interpreter :=
      congrArg Options.interpreter (options_acts launch.acts)
    intro a ha
    rcases List.mem_append.mp ha with ha | ha
    · rcases List.mem_append.mp ha with ha | ha
      · rw [hpre] at ha
        split at ha
        · cases List.mem_singleton.mp ha
          rfl
        · cases ha
      · rw [← hmid]
        exact launch.attempting a ha
    · rw [← hmid, ← hmid']
      exact ih a ha

theorem ne_judge {interpreter : Path} (h : ∀ a ∈ l, isAttempting interpreter a = true) :
    ∀ a ∈ l, ∀ p b, a ≠ .judge p b := by
  rintro a ha p b rfl
  cases h _ ha

theorem isCompletion_probe_false {p : Path}
    (hm : ∀ interpreter outcome, t.move ≠ .complete ⟨.probe interpreter, outcome⟩) :
    isCompletion (.probe p) t = false := by
  rw [isCompletion]
  split
  · next completion hc =>
    refine decide_eq_false ?_
    rintro hp
    exact hm p completion.outcome (by rw [hc, ← hp])
  · rfl

/-- A turn reaches a verdict first of all and by the completion of a probe, or not at all. -/
inductive Judges (s : Scheduler) (t : Turn) (l : List Act) (s' : Scheduler) : Prop where
  | judged {interpreter outcome mid rest}
      (hm : t.move = .complete ⟨.probe interpreter, outcome⟩)
      (hl : l = .judge interpreter outcome.success :: rest)
      (first : Does s (.judge interpreter outcome.success) mid) (acts : Acts mid rest s')
      (hrest : ∀ a ∈ rest, ∀ p b, a ≠ .judge p b)
  | unjudged (hm : ∀ interpreter outcome, t.move ≠ .complete ⟨.probe interpreter, outcome⟩)
      (hl : ∀ a ∈ l, ∀ p b, a ≠ .judge p b)

theorem Plays.judges (h : Plays s t l s') : Judges s t l s' := by
  cases h with
  | edited hm => exact .unjudged (by simp [hm]) (by simp)
  | requested hm ht ha h hl =>
    refine .unjudged (by simp [hm]) fun a ha => ?_
    rcases List.mem_cons.mp ha with rfl | ha
    · simp
    · exact ne_judge hl.attempting a ha
  | reissued hm ha h hl =>
    refine .unjudged (by simp [hm]) fun a ha => ?_
    rcases List.mem_cons.mp ha with rfl | ha
    · simp
    · exact ne_judge hl.attempting a ha
  | fired hm hr => exact .unjudged (by simp [hm]) (ne_judge hr.attempting)
  | accepted hm => exact .unjudged (by simp [hm]) (by simp)
  | judged hm ho h hl =>
    rw [← ho] at h
    exact .judged hm (by rw [ho]) h hl.acts (ne_judge hl.attempting)
  | @woken completion interpreter a l s' hm hv ha h hr =>
    cases ha with
    | @judge _ outcome =>
      have ho : outcome.success = true := by simpa [vouched?] using hv
      rw [← ho] at h
      exact .judged hm (by rw [ho]) h hr.acts (ne_judge hr.attempting)
    | installed =>
      refine .unjudged (by simp [hm]) fun a ha => ?_
      rcases List.mem_cons.mp ha with rfl | ha
      · simp
      · exact ne_judge hr.attempting a ha
  | uninstalled hm => exact .unjudged (by simp [hm]) (by simp)
  | installing hm ha => exact .unjudged (by simp [hm]) (by cases ha <;> simp)
  | closed hm => exact .unjudged (by simp [hm]) (by simp)
  | still hq =>
    refine .unjudged ?_ (by simp)
    cases hq with
    | reissue hm | trace hm | install hm | close hm => simp [hm]

/-- Probes are of the configured interpreter only, and as many of them are in flight as are marked
to be under way. -/
structure Balanced (s : Scheduler) (past : List Turn) : Prop where
  own : ∀ p, 0 < launchesOf (.probe p) (play s past).events → p = s.interpreter
  balance : launchesOf (.probe s.interpreter) (play s past).events =
    completionsOf (.probe s.interpreter) past + probes (play s past)

theorem interpreter_play (hf : Formed s) (past : List Turn) :
    (play s past).interpreter = s.interpreter :=
  congrArg Options.interpreter (options_play hf past)

theorem probes_judge {interpreter : Path} {b : Bool} (h : Does s (.judge interpreter b) s')
    (hi : interpreter = s.interpreter) : probes s' = 0 := by
  subst hi
  cases h
  exact congrArg Bool.toNat (probing_finishProbe s.availability s.interpreter b)

theorem own_acts (h : Acts s l s') {p : Path}
    (hp : launchesOf (.probe p) s.events < launchesOf (.probe p) s'.events) :
    p = s.interpreter := by
  induction h with
  | nil => exact absurd hp (Nat.lt_irrefl _)
  | cons first rest ih =>
    rw [← interpreter_does first] at *
    rcases launches_probe first p with hz | ⟨hi, -⟩
    · rw [launches_does first, hz, Nat.add_zero] at ih
      exact ih hp
    · rw [interpreter_does first, hi]

/-- Wherever a turn has got to, a verdict behind it is the completion that it brings. -/
theorem Judges.balance (hf : Formed s) (h : Balanced s past)
    (ht : ∀ completion, t.move = .complete completion → InFlight s past completion.tag)
    {u : Scheduler} (hj : Judges (play s past) t l u) (hacts : Acts (play s past) l u) :
    launchesOf (.probe s.interpreter) u.events =
      completionsOf (.probe s.interpreter) (past ++ [t]) + probes u := by
  have hi := interpreter_play hf past
  have hbalance := h.balance
  rw [completionsOf_snoc]
  rw [← hi] at hbalance ⊢
  cases hj with
  | unjudged hm hnone =>
    have hsame := balance_acts hacts hnone
    rw [isCompletion_probe_false hm]
    simp only [Bool.false_eq_true, if_false, Nat.add_zero]
    omega
  | @judged interpreter outcome mid rest hm hlist first acts hrest =>
    have hflight : InFlight s past (.probe interpreter) := ht _ hm
    have hown : interpreter = (play s past).interpreter :=
      (h.own interpreter (Nat.lt_of_le_of_lt (Nat.zero_le _) hflight)).trans hi.symm
    have hmark : probes (play s past) ≤ 1 := probes_le _
    have hmid := probes_judge first hown
    have hlaunches := launches_does first (.probe interpreter)
    have hrun := balance_acts acts hrest
    rw [interpreter_does first, ← hown, hlaunches, hmid] at hrun
    rw [InFlight] at hflight
    rw [← hown] at hbalance ⊢
    have hcompletion : isCompletion (.probe interpreter) t = true := by
      simp [isCompletion, hm]
    have hnone : launchesOf (.probe interpreter)
      (Act.judge interpreter outcome.success).effects = 0 := rfl
    rw [hcompletion, if_pos rfl]
    omega

theorem Balanced.snoc (hf : Formed s) (h : Balanced s past)
    (ht : ∀ completion, t.move = .complete completion → InFlight s past completion.tag) :
    Balanced s (past ++ [t]) := by
  obtain ⟨l, hl⟩ := turn_unfolds (formed_play hf past) t
  have hplay : play s (past ++ [t]) = t.apply (play s past) := by simp
  constructor
  · intro p hp
    rw [hplay] at hp
    by_cases hbefore : 0 < launchesOf (.probe p) (play s past).events
    · exact h.own p hbefore
    · rw [← interpreter_play hf past]
      exact own_acts hl.acts (Nat.lt_of_le_of_lt (Nat.le_of_not_lt hbefore) hp)
  · rw [hplay]
    exact hl.judges.balance hf h ht hl.acts

theorem Honest.balanced (availability : Availability) (options : Options)
    (hidle : (availability.knowledge options.interpreter).probing = false)
    (h : Honest (.new availability options) past) :
    Balanced (.new availability options) past := by
  induction past using List.reverseRecOn with
  | nil =>
    have hnone : probes (.new availability options) = 0 := congrArg Bool.toNat hidle
    refine ⟨fun p hp => absurd hp (Nat.lt_irrefl 0), ?_⟩
    rw [play_nil, hnone]
    rfl
  | append_singleton past t ih =>
    obtain ⟨hpast, ht⟩ := honest_snoc h
    exact (ih hpast).snoc (formed_new availability options) ht

/-- A probe that is marked to be under way is in flight. -/
theorem Balanced.inFlight (h : Balanced s past) (hf : Formed s)
    (hst : (play s past).availability.status s.interpreter = .probing) :
    InFlight s past (.probe s.interpreter) := by
  rw [← interpreter_play hf past] at hst
  have hmark := probing_of_status hst
  have hbalance := h.balance
  rw [InFlight]
  omega

/-- A process in flight stays so until it completes. -/
theorem InFlight.later {tag : LaunchTag} (h : InFlight s past tag) (hf : Formed s)
    {later : List Turn} (hl : ∀ u ∈ later, isCompletion tag u = false) :
    InFlight s (past ++ later) tag := by
  induction later using List.reverseRecOn with
  | nil => rwa [List.append_nil]
  | append_singleton later u ih =>
    have hpast := ih fun u hu => hl u (List.mem_append_left _ hu)
    obtain ⟨l, hacts⟩ := turn_unfolds (formed_play hf (past ++ later)) u
    have hlaunches := launches_acts hacts.acts tag
    rw [← List.append_assoc, InFlight, completionsOf_snoc, hl u (by simp), play_append]
    exact Nat.lt_of_lt_of_le hpast hlaunches

end TraceView.Proofs.Run
