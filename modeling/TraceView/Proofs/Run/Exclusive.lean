import Mathlib.Data.List.Count
import Mathlib.Data.List.Induction
import TraceView.Proofs.Run.Launches

/-!
# One probe and one install at a time

What is in flight can be told from the processes that were started and the ends that were reported,
without the store. The marks in the store agree with it at every point of a run, so a probe is only
begun while there is none, and an install is only refused because there is one.
-/
namespace TraceView.Proofs.Run

open TraceView.Run
open TraceView.Proofs.KeyOrder

def launchedTag? : Event → Option LaunchTag
  | .launched _ _ tag => some tag
  | _ => none

def completedTag? (t : Turn) : Option LaunchTag :=
  match t.move with
  | .complete completion => some completion.tag
  | _ => none

/-- What the processes in flight are for: those of all started that are not reported to have
ended. -/
def aloft (es : List Event) (turns : List Turn) : List LaunchTag :=
  (es.filterMap launchedTag?).diff (turns.filterMap completedTag?)

def isProbe : LaunchTag → Bool
  | .probe _ => true
  | _ => false

def isInstall : LaunchTag → Bool
  | .install .. => true
  | _ => false

/-- A probe of the interpreter is in flight, however the interpreter is spelled. -/
def ProbeAloft (es : List Event) (turns : List Turn) (p : Path) : Prop :=
  ∃ q, p.same q = true ∧ .probe q ∈ aloft es turns

def InstallAloft (es : List Event) (turns : List Turn) (p : Path) : Prop :=
  ∃ q id, p.same q = true ∧ .install q id ∈ aloft es turns

/-- The store and what is in flight, after the turns so far. -/
structure Exclusive (start : Scheduler) (past : List Turn) : Prop where
  probe : (aloft (play start past).events past).countP isProbe ≤ 1
  install : (aloft (play start past).events past).countP isInstall ≤ 1
  probing : ∀ p, (play start past).availability.status p = .probing ↔
    ((play start past).availability.knowledge p).importable = none ∧
      ProbeAloft (play start past).events past p
  installing : ∀ p, (play start past).availability.isInstalling p = true ↔
    InstallAloft (play start past).events past p
  answered : ∀ env id, (∃ p, ((play start past).requestInstall env id).2 =
      some (.alreadyInProgress p)) ↔
    InstallAloft (play start past).events past start.interpreter

/-- A run keeps probes and installs apart at every point, and no call made in any of its turns
begins a probe while one is in flight. -/
structure KeepsApart (start : Scheduler) (turns : List Turn) : Prop where
  always : ∀ past later, turns = past ++ later → Exclusive start past
  begun : ∀ past t later, turns = past ++ t :: later → ∃ deeds : List Deed,
    (∀ n, t.calls (n + 4) (play start past) = some (t.apply (play start past), deeds)) ∧
      ∀ interpreter before, .beginProbe interpreter before ∈ deeds →
        ∀ p, ¬ ProbeAloft before (past ++ [t]) p

variable {s s' start : Scheduler} {a : Act} {l : List Act} {t : Turn} {past : List Turn}

theorem count_launchedTag (tag : LaunchTag) (es : List Event) :
    (es.filterMap launchedTag?).count tag = launchesOf tag es := by
  induction es with
  | nil => rfl
  | cons e es ih =>
    rw [launchesOf, List.countP_cons, ← launchesOf, ← ih]
    cases e <;> simp [List.filterMap_cons, launchedTag?, isLaunch, List.count_cons]

theorem count_completedTag (tag : LaunchTag) (turns : List Turn) :
    (turns.filterMap completedTag?).count tag = completionsOf tag turns := by
  induction turns with
  | nil => rfl
  | cons t turns ih =>
    rw [completionsOf, List.countP_cons, ← completionsOf, ← ih]
    obtain ⟨env, now, move⟩ := t
    cases move <;> simp [List.filterMap_cons, completedTag?, isCompletion, List.count_cons]

theorem mem_aloft {tag : LaunchTag} {es : List Event} {turns : List Turn} :
    tag ∈ aloft es turns ↔ completionsOf tag turns < launchesOf tag es := by
  rw [aloft, ← List.count_pos_iff, List.count_diff, count_launchedTag, count_completedTag]
  omega

theorem aloft_subset {es : List Event} {turns : List Turn} :
    aloft es turns ⊆ es.filterMap launchedTag? :=
  List.diff_subset _ _

/-- Only what was started is reported to have ended. -/
theorem Honest.completions_le (hf : Formed start) (hh : Honest start past) (tag : LaunchTag) :
    completionsOf tag past ≤ launchesOf tag (play start past).events := by
  induction past using List.reverseRecOn with
  | nil => exact Nat.zero_le _
  | append_singleton past t ih =>
    obtain ⟨hpast, ht⟩ := honest_snoc hh
    obtain ⟨l, hl⟩ := turn_unfolds (formed_play hf past) t
    have hmore := launches_acts hl.acts tag
    have hplay : play start (past ++ [t]) = t.apply (play start past) := by simp
    rw [hplay, completionsOf_snoc]
    cases hc : isCompletion tag t with
    | false =>
      have hle := ih hpast
      simp only [Bool.false_eq_true, if_false]
      omega
    | true =>
      have hflight : InFlight start past tag := by
        rw [isCompletion] at hc
        split at hc
        · next completion hm => exact of_decide_eq_true hc ▸ ht completion hm
        · cases hc
      rw [InFlight] at hflight
      simp only [if_true]
      omega

theorem Honest.subperm (hf : Formed start) (hh : Honest start past) :
    (past.filterMap completedTag?).Subperm
      ((play start past).events.filterMap launchedTag?) := by
  refine List.subperm_ext_iff.mpr fun tag _ => ?_
  rw [count_launchedTag, count_completedTag]
  exact hh.completions_le hf tag

/-- A mark that is new in the second store is one of the interpreter. -/
def MarksOnly (interpreter : Path) (a a' : Availability) : Prop :=
  ∀ p, ((a'.knowledge p).probing = true →
      (a.knowledge p).probing = true ∨ interpreter.same p = true) ∧
    ((a'.knowledge p).installing = true →
      (a.knowledge p).installing = true ∨ interpreter.same p = true)

section Stores

variable {av av' av'' : Availability} {i p q : Path} {k : Knowledge}

theorem marksOnly_set
    (hp : k.probing = true → (av.knowledge q).probing = true ∨ i.same q = true)
    (hi : k.installing = true → (av.knowledge q).installing = true ∨ i.same q = true) :
    MarksOnly i av (av.set q k) := by
  intro p
  rw [knowledge_set]
  by_cases hsame : q.same p = true
  · rw [if_pos hsame, ← knowledge_same hsame]
    exact ⟨fun hk => (hp hk).imp_right (same_trans · hsame),
      fun hk => (hi hk).imp_right (same_trans · hsame)⟩
  · rw [if_neg hsame]
    exact ⟨.inl, .inl⟩

theorem MarksOnly.refl (i : Path) (av : Availability) : MarksOnly i av av :=
  fun _ => ⟨.inl, .inl⟩

theorem MarksOnly.trans (h : MarksOnly i av av') (h' : MarksOnly i av' av'') :
    MarksOnly i av av'' := by
  intro p
  obtain ⟨hp, hi⟩ := h p
  obtain ⟨hp', hi'⟩ := h' p
  exact ⟨fun hk => (hp' hk).elim hp .inr, fun hk => (hi' hk).elim hi .inr⟩

theorem marksOnly_finishProbe (av : Availability) (i q : Path) (importable : Bool) :
    MarksOnly i av (av.finishProbe q importable) :=
  marksOnly_set nofun .inl

theorem marksOnly_finishInstall (av : Availability) (i q : Path) (success : Bool) :
    MarksOnly i av (av.finishInstall q success) := by
  cases success <;> exact marksOnly_set .inl nofun

theorem marksOnly_invalidate (av : Availability) (i q : Path) :
    MarksOnly i av (av.invalidate q) :=
  marksOnly_set .inl .inl

theorem marksOnly_beginProbe (h : av.beginProbe? i = some av') : MarksOnly i av av' := by
  simp only [Availability.beginProbe?] at h
  split at h
  · cases h
  · cases h
    exact marksOnly_set (fun _ => .inr (same_self i)) .inl

theorem marksOnly_beginInstall (h : av.beginInstall? i = some av') : MarksOnly i av av' := by
  simp only [Availability.beginInstall?] at h
  split at h
  · cases h
  · cases h
    exact marksOnly_set .inl fun _ => .inr (same_self i)

end Stores

theorem marksOnly_does (h : Does s a s') :
    MarksOnly s.interpreter s.availability s'.availability := by
  cases h with
  | probe hu hb => exact marksOnly_beginProbe hb
  | probeRefused hu hb =>
    exact (marksOnly_beginProbe hb).trans (marksOnly_finishProbe _ _ _ _)
  | @miscopy env p id slot snapshot fault delivery es =>
    cases fault with
    | spawn => exact marksOnly_invalidate _ _ _
    | sourceCopy => exact .refl _ _
  | refuse => exact marksOnly_invalidate _ _ _
  | @accept id token slot run outcome delivery es =>
    change MarksOnly _ _ (if _ then _ else _)
    split
    · exact marksOnly_invalidate _ _ _
    · exact .refl _ _
  | judge => exact marksOnly_finishProbe _ _ _ _
  | install hb => exact marksOnly_beginInstall hb
  | installRefused hb =>
    exact (marksOnly_beginInstall hb).trans (marksOnly_finishInstall _ _ _ _)
  | @installed p id success output es hes =>
    cases success <;> exact marksOnly_finishInstall _ _ _ _
  | _ => exact .refl _ _

theorem marksOnly_acts (h : Acts s l s') :
    MarksOnly s.interpreter s.availability s'.availability := by
  induction h with
  | nil => exact .refl _ _
  | cons first rest ih =>
    rw [interpreter_does first] at ih
    exact (marksOnly_does first).trans ih

theorem marksOnly_play (hf : Formed start) (past : List Turn) :
    MarksOnly start.interpreter start.availability (play start past).availability := by
  induction past using List.reverseRecOn with
  | nil => exact .refl _ _
  | append_singleton past t ih =>
    obtain ⟨l, hl⟩ := turn_unfolds (formed_play hf past) t
    have hturn := marksOnly_acts hl.acts
    rw [interpreter_play hf past] at hturn
    rw [play_append]
    exact ih.trans hturn

/-- One if an install for the configured interpreter is marked as under way. -/
def installs (s : Scheduler) : Nat := (s.availability.knowledge s.interpreter).installing.toNat

/-- What the process that an act starts is for. -/
def Act.launched? : Act → Option LaunchTag
  | .probe _ _ interpreter => some (.probe interpreter)
  | .start id token .. => some (.trace id token)
  | .install id _ _ interpreter => some (.install interpreter id)
  | _ => none

theorem launchedTag_copying {e : Event} (h : Copying e) : launchedTag? e = none := by
  cases h <;> rfl

/-- An act starts one process at most. -/
theorem launched_does (h : Does s a s') :
    s'.events.filterMap launchedTag? =
      s.events.filterMap launchedTag? ++ a.launched?.toList := by
  obtain ⟨es, he, hes⟩ := events_does h
  have htags : a.effects.filterMap launchedTag? = a.launched?.toList := by
    cases h with
    | start hs ha hr hv hp =>
      subst hp
      rw [Act.effects, List.filterMap_append, filterMap_prepare fun _ => launchedTag_copying]
      rfl
    | miscopy hs ha hr hv hp =>
      subst hp
      exact filterMap_prepare (fun _ => launchedTag_copying) ..
    | refuse hs ha hr hv hp =>
      subst hp
      rw [Act.effects, List.filterMap_append, filterMap_prepare fun _ => launchedTag_copying]
      rfl
    | @close id slot es hs =>
      cases slot.active.bind (·.process) <;> cases slot.scratch <;> rfl
    | _ => rfl
  rw [he, List.filterMap_append, ← filterMap_effects (fun _ => rfl) es, hes, htags]

theorem installing_set {av : Availability} {p q : Path} {k : Knowledge}
    (h : k.installing = (av.knowledge p).installing) :
    ((av.set p k).knowledge q).installing = (av.knowledge q).installing := by
  rw [knowledge_set]
  split
  · next hsame => rw [h, knowledge_same hsame]
  · rfl

theorem installing_beginProbe {av av' : Availability} {p : Path}
    (h : av.beginProbe? p = some av') (q : Path) :
    (av'.knowledge q).installing = (av.knowledge q).installing := by
  simp only [Availability.beginProbe?] at h
  split at h
  · cases h
  · cases h
    exact installing_set rfl

theorem installing_finishProbe (av : Availability) (p q : Path) (importable : Bool) :
    ((av.finishProbe p importable).knowledge q).installing = (av.knowledge q).installing :=
  installing_set rfl

theorem beginInstall_cases {av av' : Availability} {p : Path}
    (h : av.beginInstall? p = some av') :
    (av.knowledge p).installing = false ∧ (av'.knowledge p).installing = true := by
  simp only [Availability.beginInstall?] at h
  split at h
  · cases h
  · next hp =>
    cases h
    refine ⟨Bool.eq_false_iff.mpr hp, ?_⟩
    rw [knowledge_set, same_self, if_pos rfl]

theorem installing_finishInstall (av : Availability) (p : Path) (success : Bool) :
    ((av.finishInstall p success).knowledge p).installing = false := by
  cases success <;> simp [Availability.finishInstall, knowledge_set, same_self]

theorem installs_congr (ho : s'.options = s.options)
    (h : ∀ p, (s'.availability.knowledge p).installing = (s.availability.knowledge p).installing) :
    installs s' = installs s := by
  rw [installs, installs, Scheduler.interpreter, ho, h]
  rfl

/-- The mark changes when an install starts and when it is reported to have ended. -/
theorem installs_does (h : Does s a s') (ha : ∀ p id b output, a ≠ .installed p id b output) :
    installs s' = installs s + a.launched?.toList.countP isInstall := by
  have ho := options_does h
  cases h with
  | @install id av es hb =>
    obtain ⟨hp, hp'⟩ := beginInstall_cases hb
    have hbefore : installs s = 0 := congrArg Bool.toNat hp
    rw [hbefore]
    exact congrArg Bool.toNat hp'
  | @installRefused id av es hb =>
    obtain ⟨hp, -⟩ := beginInstall_cases hb
    have hafter := installing_finishInstall av s.interpreter false
    exact congrArg Bool.toNat (hafter.trans hp.symm)
  | probe hu hb => exact installs_congr ho fun q => installing_beginProbe hb q
  | @probeRefused av es hu hb =>
    refine installs_congr ho fun q => ?_
    exact (installing_finishProbe _ _ _ _).trans (installing_beginProbe hb q)
  | @miscopy env p id slot snapshot fault delivery es =>
    refine installs_congr ho fun q => ?_
    cases fault with
    | spawn => exact installing_set rfl
    | sourceCopy => rfl
  | refuse => exact installs_congr ho fun q => installing_set rfl
  | @accept id token slot run outcome delivery es =>
    refine installs_congr ho fun q => ?_
    change ((if _ then _ else _ : Availability).knowledge q).installing = _
    split
    · exact installing_set rfl
    · rfl
  | judge => exact installs_congr ho fun q => installing_set rfl
  | installed => exact absurd rfl (ha _ _ _ _)
  | _ => rfl

theorem installs_acts (h : Acts s l s')
    (hl : ∀ a ∈ l, ∀ p id b output, a ≠ .installed p id b output) :
    (s'.events.filterMap launchedTag?).countP isInstall + installs s =
      (s.events.filterMap launchedTag?).countP isInstall + installs s' := by
  induction h with
  | nil => rfl
  | cons first rest ih =>
    have hrest := ih fun a ha => hl a (List.mem_cons_of_mem _ ha)
    rw [launched_does first, List.countP_append] at hrest
    have hmark := installs_does first (hl _ List.mem_cons_self)
    omega

theorem ne_installed {interpreter : Path} (h : ∀ a ∈ l, isAttempting interpreter a = true) :
    ∀ a ∈ l, ∀ p id b output, a ≠ .installed p id b output := by
  rintro a ha p id b output rfl
  cases h _ ha

/-- A turn takes the end of an install first of all, or not at all. -/
inductive Reports (s : Scheduler) (t : Turn) (l : List Act) (s' : Scheduler) : Prop where
  | reported {interpreter id outcome mid rest}
      (hm : t.move = .complete ⟨.install interpreter id, outcome⟩)
      (hl : l = .installed interpreter id outcome.success outcome.combined :: rest)
      (first : Does s (.installed interpreter id outcome.success outcome.combined) mid)
      (acts : Acts mid rest s')
      (hrest : ∀ a ∈ rest, ∀ p id b output, a ≠ .installed p id b output)
  | unreported
      (hm : ∀ interpreter id outcome, t.move ≠ .complete ⟨.install interpreter id, outcome⟩)
      (hl : ∀ a ∈ l, ∀ p id b output, a ≠ .installed p id b output)

theorem Plays.reports (h : Plays s t l s') : Reports s t l s' := by
  cases h with
  | edited hm => exact .unreported (by simp [hm]) (by simp)
  | requested hm ht ha h hl =>
    refine .unreported (by simp [hm]) fun a ha => ?_
    rcases List.mem_cons.mp ha with rfl | ha
    · simp
    · exact ne_installed hl.attempting a ha
  | reissued hm ha h hl =>
    refine .unreported (by simp [hm]) fun a ha => ?_
    rcases List.mem_cons.mp ha with rfl | ha
    · simp
    · exact ne_installed hl.attempting a ha
  | fired hm hr => exact .unreported (by simp [hm]) (ne_installed hr.attempting)
  | accepted hm => exact .unreported (by simp [hm]) (by simp)
  | judged hm ho h hl =>
    refine .unreported (by simp [hm]) fun a ha => ?_
    rcases List.mem_cons.mp ha with rfl | ha
    · simp
    · obtain ⟨id, message, rfl⟩ := hl.only a ha
      simp
  | @woken completion interpreter a l s' hm hv ha h hr =>
    cases ha with
    | judge =>
      refine .unreported (by simp [hm]) fun a ha => ?_
      rcases List.mem_cons.mp ha with rfl | ha
      · simp
      · exact ne_installed hr.attempting a ha
    | @installed _ id outcome =>
      have ho : outcome.success = true := by simpa [vouched?] using hv
      rw [← ho] at h
      exact .reported hm (by rw [ho]) h hr.acts (ne_installed hr.attempting)
  | uninstalled hm ho h =>
    rw [← ho] at h
    exact .reported hm (by rw [ho]) h (.nil _) (by simp)
  | installing hm ha => exact .unreported (by simp [hm]) (by cases ha <;> simp)
  | closed hm => exact .unreported (by simp [hm]) (by simp)
  | still hq =>
    refine .unreported ?_ (by simp)
    cases hq with
    | reissue hm | trace hm | install hm | close hm => simp [hm]

/-- A probe or an install is for the configured interpreter. -/
def IsFor (interpreter : Path) : LaunchTag → Prop
  | .probe p | .install p _ => p = interpreter
  | .trace .. => True

theorem isFor_acts (h : Acts s l s') (hs : ∀ tag ∈ s.events.filterMap launchedTag?,
    IsFor s.interpreter tag) :
    ∀ tag ∈ s'.events.filterMap launchedTag?, IsFor s.interpreter tag := by
  induction h with
  | nil => exact hs
  | @cons s mid s' a l first rest ih =>
    rw [interpreter_does first] at ih
    refine ih fun tag htag => ?_
    rw [launched_does first] at htag
    rcases List.mem_append.mp htag with htag | htag
    · exact hs tag htag
    · have hact : a.launched? = some tag := Option.mem_toList.mp htag
      cases first with
      | probe | install =>
        cases hact
        rfl
      | start =>
        cases hact
        trivial
      | _ => cases hact

section Runs

variable {availability : Availability} {options : Options}

theorem isFor_play (past : List Turn) :
    ∀ tag ∈ (play (.new availability options) past).events.filterMap launchedTag?,
      IsFor options.interpreter tag := by
  have hf := formed_new availability options
  induction past using List.reverseRecOn with
  | nil => simp [Scheduler.new]
  | append_singleton past t ih =>
    obtain ⟨l, hl⟩ := turn_unfolds (formed_play hf past) t
    have hi : (play (.new availability options) past).interpreter = options.interpreter :=
      interpreter_play hf past
    have hturn := isFor_acts hl.acts (hi ▸ ih)
    rw [hi] at hturn
    rw [play_append]
    exact hturn

theorem Honest.countP_aloft (hf : Formed start) (hh : Honest start past)
    (kind : LaunchTag → Bool) :
    (past.filterMap completedTag?).countP kind +
        (aloft (play start past).events past).countP kind =
      ((play start past).events.filterMap launchedTag?).countP kind := by
  have hsub := hh.subperm hf
  have hle := hsub.countP_le kind
  rw [aloft, List.countP_diff hsub]
  omega

theorem completedTag_snoc : (past ++ [t]).filterMap completedTag? =
    past.filterMap completedTag? ++ (completedTag? t).toList := by
  rw [List.filterMap_append, List.filterMap_cons]
  cases completedTag? t <;> rfl

theorem countP_completedTag
    (hm : ∀ interpreter id outcome, t.move ≠ .complete ⟨.install interpreter id, outcome⟩) :
    (completedTag? t).toList.countP isInstall = 0 := by
  rw [completedTag?]
  split
  · next completion hc =>
    obtain ⟨tag, outcome⟩ := completion
    cases tag with
    | install interpreter id => exact absurd hc (hm interpreter id outcome)
    | trace | probe => rfl
  · rfl

theorem installs_reported {interpreter : Path} {id : DocumentId} {b : Bool} {output : String}
    (h : Does s (.installed interpreter id b output) s') (hi : interpreter = s.interpreter) :
    installs s' = 0 := by
  subst hi
  have hmark := installing_finishInstall s.availability s.interpreter b
  cases h
  cases b <;> exact congrArg Bool.toNat hmark

theorem InFlight.mem_launched {tag : LaunchTag} (h : InFlight start past tag) :
    tag ∈ (play start past).events.filterMap launchedTag? := by
  rw [InFlight, ← count_launchedTag] at h
  exact List.count_pos_iff.mp (Nat.lt_of_le_of_lt (Nat.zero_le _) h)

/-- As many installs are in flight as are marked to be under way. -/
theorem Honest.install_balance
    (hidle : (availability.knowledge options.interpreter).installing = false)
    (h : Honest (.new availability options) past) :
    ((play (.new availability options) past).events.filterMap launchedTag?).countP isInstall =
      (past.filterMap completedTag?).countP isInstall +
        installs (play (.new availability options) past) := by
  have hf := formed_new availability options
  induction past using List.reverseRecOn with
  | nil =>
    have hnone : installs (.new availability options) = 0 := congrArg Bool.toNat hidle
    rw [play_nil, hnone]
    rfl
  | append_singleton past t ih =>
    obtain ⟨hpast, ht⟩ := honest_snoc h
    have hbalance := ih hpast
    have hplay : play (.new availability options) (past ++ [t]) =
        t.apply (play (.new availability options) past) := by simp
    obtain ⟨l, hl⟩ := turn_unfolds (formed_play hf past) t
    rw [completedTag_snoc, List.countP_append, hplay]
    cases hl.reports with
    | unreported hm hnone =>
      have hturn := installs_acts hl.acts hnone
      have hnot := countP_completedTag hm
      omega
    | @reported interpreter id outcome mid rest hm hlist first acts hrest =>
      have hflight : InFlight _ past (.install interpreter id) := ht _ hm
      have hown : interpreter = (play (.new availability options) past).interpreter :=
        (isFor_play past _ hflight.mem_launched).trans (interpreter_play hf past).symm
      have haloft := hpast.countP_aloft hf isInstall
      have hpos : 0 < (aloft (play (.new availability options) past).events past).countP
          isInstall :=
        List.countP_pos_iff.mpr ⟨_, mem_aloft.mpr hflight, rfl⟩
      have hmark : installs (play (.new availability options) past) ≤ 1 := Bool.toNat_le _
      have hmid := installs_reported first hown
      have hrun := installs_acts acts hrest
      have hsame : mid.events.filterMap launchedTag? =
          (play (.new availability options) past).events.filterMap launchedTag? :=
        (launched_does first).trans (List.append_nil _)
      have hend : (completedTag? t).toList.countP isInstall = 1 := by
        rw [completedTag?, hm]
        rfl
      rw [hsame] at hrun
      omega

/-- Nothing is marked as under way. -/
def Idle (availability : Availability) : Prop :=
  ∀ p, (availability.knowledge p).probing = false ∧ (availability.knowledge p).installing = false

theorem probing_own (hidle : Idle availability) {p : Path}
    (hp : ((play (.new availability options) past).availability.knowledge p).probing = true) :
    options.interpreter.same p = true := by
  have hmarks := marksOnly_play (formed_new availability options) past p
  rcases hmarks.1 hp with hbefore | hown
  · rw [Scheduler.new, (hidle p).1] at hbefore
    cases hbefore
  · exact hown

theorem installing_own (hidle : Idle availability) {p : Path}
    (hp : ((play (.new availability options) past).availability.knowledge p).installing = true) :
    options.interpreter.same p = true := by
  have hmarks := marksOnly_play (formed_new availability options) past p
  rcases hmarks.2 hp with hbefore | hown
  · rw [Scheduler.new, (hidle p).2] at hbefore
    cases hbefore
  · exact hown

/-- The mark of a probe says whether one is in flight. -/
theorem Honest.probing_iff (hidle : Idle availability)
    (h : Honest (.new availability options) past) (p : Path) :
    ((play (.new availability options) past).availability.knowledge p).probing = true ↔
      ProbeAloft (play (.new availability options) past).events past p := by
  have hbalanced := h.balanced availability options (hidle _).1
  have hbalance := hbalanced.balance
  have hi : (play (.new availability options) past).interpreter = options.interpreter :=
    interpreter_play (formed_new availability options) past
  rw [probes, hi] at hbalance
  constructor
  · intro hp
    have hown := probing_own hidle hp
    refine ⟨options.interpreter, same_comm hown, mem_aloft.mpr ?_⟩
    rw [knowledge_same hown, hp] at hbalance
    exact Nat.lt_of_lt_of_eq (Nat.lt_succ_self _) hbalance.symm
  · rintro ⟨q, hsame, hq⟩
    have hflight := mem_aloft.mp hq
    have hown : q = options.interpreter :=
      hbalanced.own q (Nat.lt_of_le_of_lt (Nat.zero_le _) hflight)
    subst hown
    rw [knowledge_same hsame]
    refine eq_true_of_ne_false fun hno => ?_
    rw [hno] at hbalance
    exact absurd hbalance (Nat.ne_of_gt hflight)

theorem Honest.installing_iff (hidle : Idle availability)
    (h : Honest (.new availability options) past) (p : Path) :
    ((play (.new availability options) past).availability.knowledge p).installing = true ↔
      InstallAloft (play (.new availability options) past).events past p := by
  have hf := formed_new availability options
  have hbalance := h.install_balance (hidle _).2
  have haloft := h.countP_aloft hf isInstall
  have hi : (play (.new availability options) past).interpreter = options.interpreter :=
    interpreter_play hf past
  rw [installs, hi] at hbalance
  constructor
  · intro hp
    have hown := installing_own hidle hp
    rw [knowledge_same hown, hp, Bool.toNat_true] at hbalance
    have hpos : 0 < (aloft (play (.new availability options) past).events past).countP
        isInstall := by omega
    obtain ⟨tag, htag, hkind⟩ := List.countP_pos_iff.mp hpos
    cases tag with
    | install q id =>
      have hq : q = options.interpreter := isFor_play past _ (aloft_subset htag)
      exact ⟨q, id, hq ▸ same_comm hown, htag⟩
    | trace | probe => cases hkind
  · rintro ⟨q, id, hsame, hq⟩
    have hpos : 0 < (aloft (play (.new availability options) past).events past).countP
        isInstall := List.countP_pos_iff.mpr ⟨_, hq, rfl⟩
    have hown : q = options.interpreter :=
      isFor_play past _ (aloft_subset hq)
    subst hown
    rw [knowledge_same hsame]
    refine eq_true_of_ne_false fun hno => ?_
    rw [hno, Bool.toNat_false] at hbalance
    omega

end Runs

section Runs

variable {availability : Availability} {options : Options}

theorem status_probing {k : Knowledge} :
    k.status = .probing ↔ k.importable = none ∧ k.probing = true := by
  obtain ⟨importable, probing, installing⟩ := k
  rcases importable with _ | _ | _ <;> cases probing <;> decide +revert

theorem Honest.probes_aloft (hidle : Idle availability)
    (h : Honest (.new availability options) past) :
    (aloft (play (.new availability options) past).events past).countP isProbe ≤ 1 := by
  have hbalance := (h.balanced availability options (hidle _).1).balance
  have hmark := probes_le (play (.new availability options) past)
  have hkind : (aloft (play (.new availability options) past).events past).countP isProbe =
      (aloft (play (.new availability options) past).events past).count
        (.probe options.interpreter) := by
    refine List.countP_congr fun tag htag => ?_
    have hown := isFor_play past tag (aloft_subset htag)
    cases tag with
    | probe p => simp [isProbe, show p = options.interpreter from hown]
    | trace | install => simp [isProbe]
  rw [hkind, aloft, List.count_diff, count_launchedTag, count_completedTag]
  change launchesOf (.probe options.interpreter) _ = completionsOf (.probe options.interpreter) _ + _
    at hbalance
  omega

/-- An install is refused as under way exactly when the store marks one. -/
theorem alreadyInProgress_iff (s : Scheduler) (env : Surroundings) (id : DocumentId) :
    (∃ p, (s.requestInstall env id).2 = some (.alreadyInProgress p)) ↔
      (s.availability.knowledge s.interpreter).installing = true := by
  cases hb : s.availability.beginInstall? s.interpreter with
  | none =>
    have hmark : (s.availability.knowledge s.interpreter).installing = true := by
      simp only [Availability.beginInstall?] at hb
      split at hb
      · assumption
      · cases hb
    refine iff_of_true ⟨s.interpreter, ?_⟩ hmark
    simp only [Scheduler.requestInstall, hb]
  | some av =>
    have hmark := (beginInstall_cases hb).1
    refine iff_of_false ?_ (by simp [hmark])
    rintro ⟨p, hp⟩
    simp only [Scheduler.requestInstall, hb] at hp
    split at hp <;> simp at hp

theorem Honest.exclusive (hidle : Idle availability)
    (h : Honest (.new availability options) past) :
    Exclusive (.new availability options) past := by
  have hf := formed_new availability options
  have hi : (play (.new availability options) past).interpreter = options.interpreter :=
    interpreter_play hf past
  constructor
  · exact h.probes_aloft hidle
  · have hbalance := h.install_balance (hidle _).2
    have haloft := h.countP_aloft hf isInstall
    have hmark : installs (play (.new availability options) past) ≤ 1 := Bool.toNat_le _
    omega
  · intro p
    rw [Availability.status, status_probing, h.probing_iff hidle p]
  · exact h.installing_iff hidle
  · intro env id
    rw [alreadyInProgress_iff, hi]
    exact h.installing_iff hidle options.interpreter

/-- No probe is in flight when one is begun. -/
theorem Honest.begun (hidle : Idle availability)
    (h : Honest (.new availability options) (past ++ [t])) {deeds : List Deed}
    (hbegun : BegunUnknown (play (.new availability options) past) t deeds) {interpreter : Path}
    {before : List Event} (hm : .beginProbe interpreter before ∈ deeds) (p : Path) :
    ¬ ProbeAloft before (past ++ [t]) p := by
  have hf := formed_new availability options
  have hi : (play (.new availability options) past).interpreter = options.interpreter :=
    interpreter_play hf past
  obtain ⟨hpast, ht⟩ := honest_snoc h
  have hbalanced := hpast.balanced availability options (hidle _).1
  obtain ⟨u, l, rfl, hst, hjudges, hacts⟩ := hbegun interpreter before hm
  have hbalance := hjudges.balance hf hbalanced ht hacts
  have hnone : probes u = 0 := by
    obtain ⟨av, hav, -⟩ := beginProbe_of_unknown hst
    exact congrArg Bool.toNat (beginProbe_cases hav).1
  rintro ⟨q, -, hq⟩
  have hown : q = options.interpreter := by
    have htags := isFor_acts hacts (hi ▸ isFor_play past)
    rw [hi] at htags
    exact htags _ (aloft_subset hq)
  have hflight := mem_aloft.mp hq
  subst hown
  change launchesOf (.probe options.interpreter) _ = completionsOf (.probe options.interpreter) _ + _
    at hbalance
  omega

end Runs

/-- In a run in which only started processes complete, each at most once, the store is in step with
what is in flight at every point, and no more than one probe and one install are. -/
theorem keeps_apart (availability : Availability) (options : Options) (hidle : Idle availability)
    (turns : List Turn) (h : Honest (.new availability options) turns) :
    KeepsApart (.new availability options) turns := by
  constructor
  · intro past later he
    exact Honest.exclusive hidle (Honest.take (he ▸ h))
  · intro past t later he
    have hsplit : turns = (past ++ [t]) ++ later := by simp [he]
    obtain ⟨deeds, hcalls, -, hbegun⟩ := t.calls_eq (play (.new availability options) past)
    have hunknown := hbegun (formed_play (formed_new availability options) past)
    exact ⟨deeds, hcalls, fun interpreter before hm =>
      Honest.begun hidle (Honest.take (hsplit ▸ h)) hunknown hm⟩

/-- A probe is still in flight when the verdict of an install is taken back, and after it has ended
another install is asked for. -/
def probeAndInstall : List Turn :=
  [⟨obliging, 0, .request ⟨"d", "one", none⟩ .save⟩,
    ⟨obliging, 1, .install "d"⟩,
    ⟨obliging, 2, .complete ⟨.install "python" "d", .exited (some 0) "" ""⟩⟩,
    ⟨obliging, 3, .complete ⟨.trace "d" 1, .exited (some 1) "" "No module named tracer"⟩⟩,
    ⟨obliging, 4, .request ⟨"d", "two", none⟩ .save⟩,
    ⟨obliging, 5, .complete ⟨.probe "python", .exited (some 1) "" ""⟩⟩,
    ⟨obliging, 6, .install "d"⟩]

theorem keeps_apart_probeAndInstall :
    Idle [] ∧ Honest (.new [] plainOptions) probeAndInstall ∧
      KeepsApart (.new [] plainOptions) probeAndInstall :=
  have hidle : Idle [] := fun _ => ⟨rfl, rfl⟩
  have h : Honest (.new [] plainOptions) probeAndInstall := by decide +kernel
  ⟨hidle, h, keeps_apart [] plainOptions hidle probeAndInstall h⟩

end TraceView.Proofs.Run
