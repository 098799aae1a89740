import TraceView.Proofs.Run.LatestText
import TraceView.Proofs.Run.Lead

/-!
# Scratch directories

A scratch directory is made for one document and held by it until the document is closed, whatever
fails meanwhile; closing removes it. So the directories there are, are at any time those that open
documents hold. That a directory which is made is a new one is left to the system.
-/
namespace TraceView.Proofs.Run

open TraceView.Run

/-- Scratch directories with their files, after some events. -/
def diskAfter (es : List Event) : Disk := es.foldl Disk.replay []

/-- Each directory that is made is new: there is none of its name when it is made. -/
def MakesFresh (es : List Event) : Prop :=
  ∀ before dir after, es = before ++ .scratchMade dir :: after →
    Keyed.has (diskAfter before) dir = false

/-- The directories there are, are those held by open documents, each by one of them. -/
structure Housed (s : Scheduler) : Prop where
  held : ∀ dir, Keyed.has (diskAfter s.events) dir = true ↔ ∃ d, scratchOf s d = some dir
  alone : ∀ d d' dir, scratchOf s d = some dir → scratchOf s d' = some dir → d = d'

/-- A document holds a directory from when it is made until the document is closed, which removes
it. -/
structure KeepsScratch (start : Scheduler) (turns : List Turn) : Prop where
  housed : ∀ past, past <+: turns → Housed (play start past)
  kept : ∀ past t later d dir, turns = past ++ t :: later → t.move ≠ .close d →
    scratchOf (play start past) d = some dir →
      scratchOf (play start (past ++ [t])) d = some dir ∧
        .scratchRemoved dir ∉ t.did (play start past)
  removed : ∀ past t later d dir, turns = past ++ t :: later → t.move = .close d →
    scratchOf (play start past) d = some dir →
      .scratchRemoved dir ∈ t.did (play start past) ∧
        Keyed.has (diskAfter (play start (past ++ [t])).events) dir = false

variable {s s' : Scheduler} {t : Turn} {d : DocumentId} {dir : Path} {a : Act} {l : List Act}
  {es es' : List Event}

/-- Events that change which directories there are. -/
def movesDir : Event → Bool
  | .scratchMade _ | .scratchRemoved _ => true
  | _ => false

theorem has_insert {κ α : Type} [DecidableEq κ] [LT κ] [DecidableLT κ] (m : Keyed κ α) (k k' : κ)
    (v : α) : Keyed.has (Keyed.insert m k v) k' = (decide (k = k') || Keyed.has m k') := by
  rw [Keyed.has, Keyed.get?_insert]
  by_cases hk : k = k' <;> simp [hk, Keyed.has]

theorem has_replay (disk : Disk) {e : Event} (he : movesDir e = false) (dir : Path) :
    Keyed.has (disk.replay e) dir = Keyed.has disk dir := by
  cases e with
  | scratchMade | scratchRemoved => cases he
  | copyWritten dir' name text =>
    rw [Disk.replay, Keyed.has, Keyed.get?_modify]
    split
    · exact Option.isSome_map
    · rfl
  | _ => rfl

theorem has_replays (disk : Disk) (hes : ∀ e ∈ es, movesDir e = false) (dir : Path) :
    Keyed.has (es.foldl Disk.replay disk) dir = Keyed.has disk dir := by
  induction es generalizing disk with
  | nil => rfl
  | cons e es ih =>
    rw [List.foldl_cons, ih _ fun e he => hes e (List.mem_cons_of_mem _ he),
      has_replay _ (hes e List.mem_cons_self)]

theorem replay_effects (disk : Disk) (es : List Event) :
    (effects es).foldl Disk.replay disk = es.foldl Disk.replay disk := by
  induction es generalizing disk with
  | nil => rfl
  | cons e es ih => cases e <;> exact ih _

theorem MakesFresh.take (h : MakesFresh (es ++ es')) : MakesFresh es := by
  intro before dir after he
  exact h before dir (after ++ es') (by simp [he])

/-- What is made first is new to the directories there were. -/
theorem MakesFresh.first {rest : List Event} (h : MakesFresh (es ++ es'))
    (he : effects es' = .scratchMade dir :: rest) : Keyed.has (diskAfter es) dir = false := by
  obtain ⟨logs, later, rfl, hlogs, -, -⟩ := List.filter_eq_cons_iff.mp he
  have hquiet : effects logs = [] := List.filter_eq_nil_iff.mpr hlogs
  have hsame : diskAfter (es ++ logs) = diskAfter es := by
    rw [diskAfter, List.foldl_append, ← replay_effects _ logs, hquiet]
    rfl
  rw [← hsame]
  exact h (es ++ logs) dir later (by simp)

def isNew (disk : Disk) : Event → Bool
  | .scratchMade dir => !Keyed.has disk dir
  | _ => true

theorem isNew_iff {disk : Disk} {e : Event} :
    isNew disk e = true ↔ ∀ dir, e = .scratchMade dir → Keyed.has disk dir = false := by
  cases e <;> simp [isNew]

def isFresh (disk : Disk) : List Event → Bool
  | [] => true
  | e :: es => isNew disk e && isFresh (disk.replay e) es

theorem isFresh_iff {disk : Disk} : isFresh disk es = true ↔
    ∀ before dir after, es = before ++ .scratchMade dir :: after →
      Keyed.has (before.foldl Disk.replay disk) dir = false := by
  induction es generalizing disk with
  | nil => simp [isFresh]
  | cons e es ih =>
    rw [isFresh, Bool.and_eq_true, isNew_iff, ih]
    constructor
    · rintro ⟨he, hes⟩ before dir after hsplit
      cases before with
      | nil =>
        cases hsplit
        exact he dir rfl
      | cons e' before =>
        cases hsplit
        exact hes before dir after rfl
    · intro h
      refine ⟨fun dir he => ?_, fun before dir after hsplit => ?_⟩
      · exact h [] dir es (by rw [he]; rfl)
      · exact h (e :: before) dir after (by rw [hsplit]; rfl)

instance (es : List Event) : Decidable (MakesFresh es) :=
  decidable_of_iff (isFresh [] es = true) isFresh_iff

/-- What preparing a launch does to the directory of its document. -/
inductive Prepares (scratch : Option Path) (p : Prepared) : Prop where
  | held (hs : p.scratch = scratch) (hes : ∀ e ∈ p.events, movesDir e = false)
  | made {dir : Path} {es : List Event} (hn : scratch = none) (hs : p.scratch = some dir)
      (he : p.events = .scratchMade dir :: es) (hes : ∀ e ∈ es, movesDir e = false)

theorem writeCopy_cases (env : Surroundings) (options : Options) (snapshot : Snapshot) (dir : Path)
    (asked : Nat) (made : List Event) :
    (writeCopy env options snapshot dir asked made).scratch = some dir ∧
      ∃ copies, (writeCopy env options snapshot dir asked made).events = made ++ copies ∧
        ∀ e ∈ copies, movesDir e = false := by
  rw [writeCopy]
  cases env.write (snapshot.copyPath dir) with
  | some fault => exact ⟨rfl, [], (List.append_nil _).symm, by simp⟩
  | none =>
    refine ⟨rfl, _, rfl, fun e he => ?_⟩
    cases List.mem_singleton.mp he
    rfl

theorem prepares (env : Surroundings) (options : Options) (snapshot : Snapshot)
    (scratch : Option Path) (asked : Nat) :
    Prepares scratch (prepare env options snapshot scratch asked) := by
  unfold prepare
  split
  · split
    · next dir =>
      obtain ⟨hs, copies, he, hcopies⟩ := writeCopy_cases env options snapshot dir asked []
      exact .held hs (he ▸ hcopies)
    · split
      · exact .held rfl (by simp)
      · next dir _ =>
        obtain ⟨hs, copies, he, hcopies⟩ :=
          writeCopy_cases env options snapshot dir (asked + 1) [.scratchMade dir]
        exact .made rfl hs he hcopies
  · exact .held rfl (by simp)

/-- What an act does to the directories there are and to who holds them. -/
inductive Houses (s : Scheduler) (a : Act) (s' : Scheduler) : Prop where
  | same (hheld : ∀ d, scratchOf s' d = scratchOf s d) (hes : ∀ e ∈ a.effects, movesDir e = false)
  | made {d : DocumentId} {dir : Path} {es : List Event} (hn : scratchOf s d = none) (hs : scratchOf s' d = some dir)
      (hother : ∀ b, b ≠ d → scratchOf s' b = scratchOf s b)
      (he : a.effects = .scratchMade dir :: es) (hes : ∀ e ∈ es, movesDir e = false)
  | removed {d : DocumentId} {process dir} {es : List Event} (ha : a = .close d process (some dir))
      (hs : scratchOf s d = some dir) (hn : scratchOf s' d = none)
      (hother : ∀ b, b ≠ d → scratchOf s' b = scratchOf s b)
      (he : a.effects = es ++ [.scratchRemoved dir]) (hes : ∀ e ∈ es, movesDir e = false)

theorem scratchOf_other (h : Does s a s') {b : DocumentId} (hb : a.subject ≠ some b) :
    scratchOf s' b = scratchOf s b := by
  rw [scratchOf_bare, scratchOf_bare, bare_does h hb]

theorem scratchOf_slot {slot : Slot} (hs : s.slot? d = some slot) : scratchOf s d = slot.scratch := by
  rw [scratchOf, hs]
  rfl

theorem scratchOf_erased (hd : s'.documents = Keyed.erase s.documents d) :
    scratchOf s' d = none := by
  rw [scratchOf_bare]
  exact bind_erased _ hd

/-- An act that leaves the document it is about with its directory, if it had one. -/
theorem houses_same (h : Does s a s')
    (hown : ∀ d, a.subject = some d → scratchOf s' d = scratchOf s d)
    (hes : ∀ e ∈ a.effects, movesDir e = false) : Houses s a s' := by
  refine .same (fun d => ?_) hes
  by_cases hd : a.subject = some d
  · exact hown d hd
  · exact scratchOf_other h hd

theorem houses_prepared {env : Surroundings} {p : Prepared} {slot slot' : Slot} {snapshot : Snapshot}
    {last : List Event} (h : Does s a s') (hd : a.subject = some d) (hs : s.slot? d = some slot)
    (hp : prepare env s.options snapshot slot.scratch s.scratches = p)
    (hs' : s'.documents = (put s d slot').documents) (hscratch : slot'.scratch = p.scratch)
    (he : a.effects = p.events ++ last) (hlast : ∀ e ∈ last, movesDir e = false) :
    Houses s a s' := by
  have hheld := scratchOf_slot hs
  have hheld' := (scratchOf_put hs').trans hscratch
  have hother : ∀ b, b ≠ d → scratchOf s' b = scratchOf s b := by
    intro b hb
    exact scratchOf_other h fun hsub => hb (Option.some.inj (hsub.symm.trans hd))
  have hprep := prepares env s.options snapshot slot.scratch s.scratches
  rw [hp] at hprep
  cases hprep with
  | held hsame hes =>
    refine houses_same h (fun b hb => ?_) fun e hmem => ?_
    · obtain rfl := Option.some.inj (hd.symm.trans hb)
      rw [hheld', hsame, hheld]
    · rw [he] at hmem
      rcases List.mem_append.mp hmem with hmem | hmem
      · exact hes e hmem
      · exact hlast e hmem
  | @made dir es hn hmade hevents hes =>
    refine .made (hheld.trans hn) (hheld'.trans hmade) hother (by rw [he, hevents]; rfl) ?_
    intro e hmem
    rcases List.mem_append.mp hmem with hmem | hmem
    · exact hes e hmem
    · exact hlast e hmem

theorem houses_update {slot slot' : Slot} (h : Does s a s') (hd : a.subject = some d)
    (hs : s.slot? d = some slot) (hs' : s'.documents = (put s d slot').documents)
    (hscratch : slot'.scratch = slot.scratch) (hes : ∀ e ∈ a.effects, movesDir e = false) :
    Houses s a s' := by
  refine houses_same h (fun b hb => ?_) hes
  obtain rfl := Option.some.inj (hd.symm.trans hb)
  rw [scratchOf_put hs', hscratch, scratchOf_slot hs]

theorem houses_gated (h : Does s a s') (hd : a.subject = some d)
    (hs' : s'.documents = (s.update d (gated s.interpreter)).documents)
    (hes : ∀ e ∈ a.effects, movesDir e = false) : Houses s a s' := by
  refine houses_same h (fun b hb => ?_) hes
  obtain rfl := Option.some.inj (hd.symm.trans hb)
  rw [scratchOf_bare, scratchOf_bare]
  exact bind_gated _ hs' fun _ _ => rfl

theorem Does.houses (h : Does s a s') : Houses s a s' := by
  have hdoes := h
  cases h with
  | idle | probe | probeRefused | prompt | judge | installed =>
    exact houses_same hdoes (by simp [Act.subject]) (by simp [Act.effects, movesDir])
  | @ask snapshot due =>
    refine houses_same hdoes (fun b hb => ?_) (by simp [Act.effects])
    cases hb
    refine (scratchOf_put rfl).trans ?_
    rw [scratchOf]
    cases s.slot? snapshot.document <;> rfl
  | calm hs | release hs | park hs | accept hs =>
    exact houses_update hdoes rfl hs rfl rfl (by simp [Act.effects])
  | kill hs => exact houses_update hdoes rfl hs rfl rfl (by simp [Act.effects, movesDir])
  | start hs ha hr hv hp =>
    exact houses_prepared hdoes rfl hs hp rfl rfl rfl (by simp [movesDir])
  | @miscopy env p id slot snapshot fault delivery es hs ha hr hv hp =>
    exact houses_prepared hdoes rfl hs hp rfl rfl (List.append_nil _).symm (by simp)
  | refuse hs ha hr hv hp =>
    exact houses_prepared hdoes rfl hs hp rfl rfl rfl (by simp [movesDir])
  | install | installRefused =>
    exact houses_gated hdoes rfl rfl (by simp [Act.effects, movesDir])
  | @close id slot es hs hes =>
    have hkilled : ∀ e ∈ (slot.active.bind (·.process)).toList.map Event.killed,
        movesDir e = false := by
      intro e he
      obtain ⟨process, -, rfl⟩ := List.mem_map.mp he
      rfl
    cases hscratch : slot.scratch with
    | none =>
      rw [hscratch] at hdoes
      refine houses_same hdoes (fun b hb => ?_) (by simpa [Act.effects] using hkilled)
      cases hb
      rw [scratchOf_erased rfl, scratchOf_slot hs, hscratch]
    | some dir =>
      rw [hscratch] at hdoes
      refine .removed rfl ((scratchOf_slot hs).trans hscratch) (scratchOf_erased rfl)
        (fun b hb => ?_) rfl hkilled
      exact scratchOf_other hdoes fun hsub => hb (Option.some.inj hsub).symm

theorem diskAfter_does (h : Does s a s') :
    diskAfter s'.events = a.effects.foldl Disk.replay (diskAfter s.events) := by
  obtain ⟨es, he, hes⟩ := events_does h
  rw [he, diskAfter, List.foldl_append, ← hes, replay_effects]
  rfl

/-- Every act keeps the directories housed, as long as those that are made are new. -/
theorem Housed.does (hh : Housed s) (h : Does s a s') (hfresh : MakesFresh s'.events) :
    Housed s' := by
  have hdisk := diskAfter_does h
  cases h.houses with
  | same hheld hes =>
    constructor
    · intro dir
      rw [hdisk, has_replays _ hes, hh.held]
      simp only [hheld]
    · intro d d' dir hd hd'
      rw [hheld] at hd hd'
      exact hh.alone d d' dir hd hd'
  | @made d dir es hn hs hother he hes =>
    -- A directory somebody held would be there, and then it could not be made.
    have hnew : ∀ b, scratchOf s b ≠ some dir := by
      obtain ⟨es', hevents, heffects⟩ := events_does h
      rw [hevents] at hfresh
      have hfirst := hfresh.first (heffects.trans he)
      intro b hb
      rw [(hh.held dir).mpr ⟨b, hb⟩] at hfirst
      cases hfirst
    have hdirs : ∀ dir', Keyed.has (diskAfter s'.events) dir' =
        (decide (dir = dir') || Keyed.has (diskAfter s.events) dir') := by
      intro dir'
      rw [hdisk, he, List.foldl_cons, has_replays _ hes, Disk.replay, has_insert]
    constructor
    · intro dir'
      rw [hdirs, Bool.or_eq_true, decide_eq_true_eq, hh.held]
      constructor
      · rintro (rfl | ⟨b, hb⟩)
        · exact ⟨d, hs⟩
        · have hne : b ≠ d := by
            rintro rfl
            rw [hn] at hb
            cases hb
          exact ⟨b, (hother b hne).trans hb⟩
      · rintro ⟨b, hb⟩
        by_cases hbd : b = d
        · subst hbd
          rw [hs] at hb
          exact .inl (Option.some.inj hb)
        · exact .inr ⟨b, (hother b hbd).symm.trans hb⟩
    · intro b b' dir' hb hb'
      by_cases hbd : b = d <;> by_cases hbd' : b' = d
      · rw [hbd, hbd']
      · subst hbd
        rw [hs] at hb
        cases hb
        exact absurd ((hother b' hbd').symm.trans hb') (hnew b')
      · subst hbd'
        rw [hs] at hb'
        cases hb'
        exact absurd ((hother b hbd).symm.trans hb) (hnew b)
      · exact hh.alone b b' dir' ((hother b hbd).symm.trans hb) ((hother b' hbd').symm.trans hb')
  | @removed d process dir es ha hs hn hother he hes =>
    have hdirs : ∀ dir', Keyed.has (diskAfter s'.events) dir' =
        (!decide (dir = dir') && Keyed.has (diskAfter s.events) dir') := by
      intro dir'
      rw [hdisk, he, List.foldl_append, List.foldl_cons, List.foldl_nil, Disk.replay, Keyed.has,
        Keyed.get?_erase]
      by_cases hdir : dir = dir'
      · simp [hdir]
      · rw [if_neg hdir, ← Keyed.has, has_replays _ hes]
        simp [hdir]
    have hkept : ∀ b dir', scratchOf s' b = some dir' ↔ b ≠ d ∧ scratchOf s b = some dir' := by
      intro b dir'
      by_cases hbd : b = d
      · subst hbd
        simp [hn]
      · simp [hbd, hother b hbd]
    constructor
    · intro dir'
      rw [hdirs, Bool.and_eq_true, Bool.not_eq_true', decide_eq_false_iff_not, hh.held]
      constructor
      · rintro ⟨hdir, b, hb⟩
        refine ⟨b, (hkept b dir').mpr ⟨?_, hb⟩⟩
        rintro rfl
        exact hdir (Option.some.inj (hs.symm.trans hb))
      · rintro ⟨b, hb⟩
        obtain ⟨hbd, hb⟩ := (hkept b dir').mp hb
        refine ⟨?_, b, hb⟩
        rintro rfl
        exact hbd (hh.alone b d dir hb hs)
    · intro b b' dir' hb hb'
      exact hh.alone b b' dir' ((hkept b dir').mp hb).2 ((hkept b' dir').mp hb').2

theorem Housed.acts (hh : Housed s) (h : Acts s l s') (hfresh : MakesFresh s'.events) :
    Housed s' := by
  induction h with
  | nil => exact hh
  | @cons s mid s' a l first rest ih =>
    obtain ⟨es, he, -⟩ := events_acts rest
    have hmid : MakesFresh mid.events := MakesFresh.take (he ▸ hfresh)
    exact ih (hh.does first hmid) hfresh

theorem not_mem_of_still {e : Event} (hes : ∀ e ∈ es, movesDir e = false) (he : movesDir e = true) :
    e ∉ es :=
  fun hmem => Bool.false_ne_true ((hes e hmem).symm.trans he)

/-- Only closing a document takes its directory from it. -/
theorem Housed.keeps (hh : Housed s) (h : Does s a s')
    (ha : ∀ process scratch, a ≠ .close d process scratch) (hd : scratchOf s d = some dir) :
    scratchOf s' d = some dir ∧ .scratchRemoved dir ∉ a.effects := by
  cases h.houses with
  | same hheld hes => exact ⟨(hheld d).trans hd, not_mem_of_still hes rfl⟩
  | @made d' dir' es hn hs hother he hes =>
    have hne : d ≠ d' := by
      rintro rfl
      rw [hn] at hd
      cases hd
    refine ⟨(hother d hne).trans hd, ?_⟩
    rw [he]
    exact List.not_mem_cons_of_ne_of_not_mem (by simp) (not_mem_of_still hes rfl)
  | @removed d' process dir' es hclose hs hn hother he hes =>
    have hne : d ≠ d' := by
      rintro rfl
      exact ha _ _ hclose
    refine ⟨(hother d hne).trans hd, ?_⟩
    rw [he, List.mem_append, List.mem_singleton, Event.scratchRemoved.injEq]
    rintro (hmem | rfl)
    · exact not_mem_of_still hes rfl hmem
    · exact hne (hh.alone d d' dir hd hs)

theorem Housed.keeps_acts (hh : Housed s) (h : Acts s l s') (hfresh : MakesFresh s'.events)
    (ha : ∀ process scratch, .close d process scratch ∉ l) (hd : scratchOf s d = some dir) :
    scratchOf s' d = some dir ∧ .scratchRemoved dir ∉ l.flatMap Act.effects := by
  induction h with
  | nil => exact ⟨hd, List.not_mem_nil⟩
  | @cons s mid s' a l first rest ih =>
    obtain ⟨hmid, hquiet⟩ := hh.keeps first
      (fun process scratch he => ha process scratch (he ▸ List.mem_cons_self)) hd
    obtain ⟨es, he, -⟩ := events_acts rest
    obtain ⟨hlast, hquiet'⟩ := ih (hh.does first (he ▸ hfresh).take) hfresh
      (fun process scratch hmem => ha process scratch (List.mem_cons_of_mem _ hmem)) hmid
    rw [List.flatMap_cons, List.mem_append]
    exact ⟨hlast, not_or.mpr ⟨hquiet, hquiet'⟩⟩

/-- Closing a document removes the directory it held. -/
theorem Housed.removes (hh : Housed s) {process : Option Nat} {scratch : Option Path}
    (h : Does s (.close d process scratch) s') (hfresh : MakesFresh s'.events)
    (hd : scratchOf s d = some dir) :
    .scratchRemoved dir ∈ (Act.close d process scratch).effects ∧
      Keyed.has (diskAfter s'.events) dir = false := by
  have hh' := hh.does h hfresh
  constructor
  · cases h with
    | close hs =>
      rw [scratchOf_slot hs] at hd
      rw [Act.effects, hd]
      exact List.mem_append_right _ (List.mem_singleton_self _)
  · refine Bool.eq_false_iff.mpr fun hhas => ?_
    obtain ⟨b, hb⟩ := (hh'.held dir).mp hhas
    by_cases hbd : b = d
    · subst hbd
      have hnone : scratchOf s' b = none := by
        cases h with
        | close => exact scratchOf_erased rfl
      cases hnone.symm.trans hb
    · rw [scratchOf_other h fun hsub => hbd (Option.some.inj hsub).symm] at hb
      exact hbd (hh.alone b d dir hb hd)

theorem Leads.unclosed (h : Leads s t l s') (hm : t.move ≠ .close d) (process : Option Nat)
    (scratch : Option Path) : .close d process scratch ∉ l := by
  intro hmem
  have hplain : ∀ l : List Act, (∀ a ∈ l, isPlain a = true) → .close d process scratch ∉ l :=
    fun l hl hmem => Bool.false_ne_true (hl _ hmem)
  cases h with
  | denied hm' ho first rest =>
    exact hplain _ rest.plain ((List.mem_cons.mp hmem).resolve_left (by simp))
  | granted hm' hv ha first rest =>
    rcases List.mem_cons.mp hmem with rfl | hmem
    · cases ha
    · exact hplain _ rest.plain hmem
  | closed hm' first =>
    cases List.mem_singleton.mp hmem
    exact hm hm'
  | plain hm' hc acts hl => exact hplain _ hl hmem

/-- The close of an open document is one act. -/
theorem Leads.closes (h : Leads s t l s') (hm : t.move = .close d) (hopen : s.slot? d ≠ none) :
    ∃ process scratch, l = [.close d process scratch] ∧ Does s (.close d process scratch) s' := by
  cases h with
  | denied hm' => cases hm.symm.trans hm'
  | granted hm' hv =>
    cases hm.symm.trans hm'
  | closed hm' first =>
    cases hm.symm.trans hm'
    exact ⟨_, _, rfl, first⟩
  | plain hm' hc => exact absurd (hc d hm).1 hopen

/-- Whatever fails in a turn, a document that is not closed in it still has its directory. -/
theorem Plays.holds (h : Plays s t l (t.apply s)) (hh : Housed s)
    (hfresh : MakesFresh (t.apply s).events) (hm : t.move ≠ .close d)
    (hd : scratchOf s d = some dir) :
    scratchOf (t.apply s) d = some dir ∧ .scratchRemoved dir ∉ t.did s := by
  obtain ⟨hkept, hquiet⟩ := hh.keeps_acts h.acts hfresh (h.leads.unclosed hm) hd
  refine ⟨hkept, fun hmem => hquiet ?_⟩
  rw [← h.did]
  exact mem_effects.mpr ⟨hmem, rfl⟩

theorem Plays.gives_up (h : Plays s t l (t.apply s)) (hh : Housed s)
    (hfresh : MakesFresh (t.apply s).events) (hm : t.move = .close d)
    (hd : scratchOf s d = some dir) :
    .scratchRemoved dir ∈ t.did s ∧ Keyed.has (diskAfter (t.apply s).events) dir = false := by
  have hopen : s.slot? d ≠ none := by
    intro hnone
    rw [scratchOf, hnone] at hd
    cases hd
  obtain ⟨process, scratch, rfl, hclose⟩ := h.leads.closes hm hopen
  obtain ⟨hmem, hgone⟩ := hh.removes hclose hfresh hd
  refine ⟨(mem_effects.mp ?_).1, hgone⟩
  rw [h.did]
  exact List.mem_flatMap.mpr ⟨_, List.mem_singleton_self _, hmem⟩

theorem housed_new (availability : Availability) (options : Options) :
    Housed (.new availability options) where
  held := by
    intro dir
    refine ⟨fun h => ?_, fun ⟨d, hd⟩ => ?_⟩
    · cases h
    · cases hd
  alone := by
    intro d d' dir hd
    cases hd

theorem MakesFresh.past (hf : Formed s) {past later : List Turn}
    (h : MakesFresh (play s (past ++ later)).events) : MakesFresh (play s past).events := by
  obtain ⟨l, hl⟩ := acts_play (formed_play hf past) later
  obtain ⟨es, he, -⟩ := events_acts hl
  rw [play_append, he] at h
  exact h.take

theorem housed_play (hf : Formed s) (hh : Housed s) {turns : List Turn}
    (hfresh : MakesFresh (play s turns).events) : Housed (play s turns) := by
  obtain ⟨l, hl⟩ := acts_play hf turns
  exact hh.acts hl hfresh

/-- If directories that are made are new, then whatever else fails no directory is left behind,
shared, lost or used after its document was closed. -/
theorem keeps_scratch (availability : Availability) (options : Options) (turns : List Turn)
    (hfresh : MakesFresh (play (.new availability options) turns).events) :
    KeepsScratch (.new availability options) turns := by
  have hf := formed_new availability options
  have hhoused : ∀ past later, turns = past ++ later →
      Housed (play (.new availability options) past) := by
    rintro past later rfl
    exact housed_play hf (housed_new availability options) (hfresh.past hf)
  have hturn : ∀ past t later, turns = past ++ t :: later →
      MakesFresh (t.apply (play (.new availability options) past)).events ∧
        ∃ l, Plays (play (.new availability options) past) t l
          (t.apply (play (.new availability options) past)) := by
    rintro past t later rfl
    refine ⟨?_, turn_unfolds (formed_play hf past) t⟩
    have hsplit : past ++ t :: later = (past ++ [t]) ++ later := by simp
    rw [hsplit] at hfresh
    simpa using hfresh.past hf
  have hplay : ∀ past t, play (.new availability options) (past ++ [t]) =
      t.apply (play (.new availability options) past) := by simp
  constructor
  · rintro past ⟨later, rfl⟩
    exact hhoused past later rfl
  · intro past t later d dir he hm hd
    obtain ⟨hfresh', l, hl⟩ := hturn past t later he
    rw [hplay]
    exact hl.holds (hhoused past _ he) hfresh' hm hd
  · intro past t later d dir he hm hd
    obtain ⟨hfresh', l, hl⟩ := hturn past t later he
    rw [hplay]
    exact hl.gives_up (hhoused past _ he) hfresh' hm hd

/-- Surroundings that number the directories they make. -/
def numbering : Surroundings :=
  { obliging with scratch := fun n => .ok ("copy" ++ toString n) }

/-- A document runs, its copy cannot be written when it is saved again, and its last launch is
refused; another runs meanwhile. The first is closed and opened again. -/
def closedAfterFaults : List Turn :=
  [⟨numbering, 0, .request ⟨"d", "one", none⟩ .save⟩,
    ⟨numbering, 1, .request ⟨"e", "two", none⟩ .save⟩,
    ⟨{ numbering with write := fun _ => some ⟨.other, "no space left"⟩ }, 2,
      .request ⟨"d", "three", none⟩ .save⟩,
    ⟨{ numbering with spawn := fun _ _ _ => some ⟨.notFound, "gone"⟩ }, 3,
      .request ⟨"d", "four", none⟩ .save⟩,
    ⟨numbering, 4, .close "d"⟩,
    ⟨numbering, 5, .request ⟨"d", "five", none⟩ .explicit⟩]

theorem keeps_scratch_closedAfterFaults :
    MakesFresh (play (.new (.withVerdict "python" true) copyingOptions) closedAfterFaults).events ∧
      KeepsScratch (.new (.withVerdict "python" true) copyingOptions) closedAfterFaults ∧
      (diskAfter (play (.new (.withVerdict "python" true) copyingOptions)
        (closedAfterFaults.take 4)).events).length = 2 :=
  have h : MakesFresh
      (play (.new (.withVerdict "python" true) copyingOptions) closedAfterFaults).events := by
    decide +kernel
  ⟨h, keeps_scratch _ copyingOptions closedAfterFaults h, by decide +kernel⟩

end TraceView.Proofs.Run
