import TraceView.Proofs.Run.Act

/-!
# The form of a scheduler

What every act keeps of the slots: keys in order, each slot under the document it asks for, its
latest token the one of its active run, and that run in possession of a process. Acts about one
document leave the slots of others as they are, up to the mark that they have been prompted.
-/
namespace TraceView.Proofs.Run

open TraceView.Run
open TraceView.Proofs.KeyOrder

structure Sound (interpreter : Path) (id : DocumentId) (slot : Slot) : Prop where
  asked : ∃ snapshot, slot.request = some snapshot ∧ snapshot.document = id
  latest : slot.latest = slot.active.map (·.token)
  manned : ∀ run, slot.active = some run →
    run.state = .running ∧ run.interpreter = interpreter ∧
      ∃ process, run.process = some process
  gated : ∀ p, slot.gatedOn = some p → p = interpreter

structure Formed (s : Scheduler) : Prop where
  ordered : Ordered s.documents
  sound : ∀ {id slot}, s.slot? id = some slot → Sound s.interpreter id slot

theorem formed_new (availability : Availability) (options : Options) :
    Formed (.new availability options) where
  ordered := .nil
  sound := by
    intro id slot h
    cases h

theorem Formed.congr {s s' : Scheduler} (h : Formed s) (hd : s'.documents = s.documents)
    (ho : s'.options = s.options) : Formed s' where
  ordered := hd ▸ h.ordered
  sound := by
    intro id slot hs
    rw [Scheduler.slot?, hd] at hs
    rw [Scheduler.interpreter, ho]
    exact h.sound hs

@[simp] theorem slot?_put (s : Scheduler) (id : DocumentId) (slot : Slot) (k : DocumentId) :
    (put s id slot).slot? k = if id = k then some slot else s.slot? k :=
  Keyed.get?_insert ..

@[simp] theorem slot?_extend (s : Scheduler) (es : List Event) (k : DocumentId) :
    (extend s es).slot? k = s.slot? k := rfl

theorem slot?_update (s : Scheduler) (id : DocumentId) (f : Slot → Slot) (k : DocumentId) :
    (s.update id f).slot? k = if id = k then (s.slot? k).map f else s.slot? k :=
  Keyed.get?_modify ..

theorem update_eq_put {s : Scheduler} {id : DocumentId} {slot : Slot}
    (h : s.slot? id = some slot) (f : Slot → Slot) : s.update id f = put s id (f slot) := by
  have hg : Keyed.get? s.documents id = some slot := h
  simp only [Scheduler.update, Keyed.modify, hg, put]

theorem update_none {s : Scheduler} {id : DocumentId} (h : s.slot? id = none)
    (f : Slot → Slot) : s.update id f = s := by
  have hg : Keyed.get? s.documents id = none := h
  simp only [Scheduler.update, Keyed.modify, hg]

def renew (interpreter : Path) (slot : Slot) : Slot :=
  if slot.isGatedOn interpreter then { slot with prompted := false } else slot

theorem slot?_allowPrompts (s : Scheduler) (interpreter : Path) (k : DocumentId) :
    (s.allowPrompts interpreter).slot? k = (s.slot? k).map (renew interpreter) :=
  get?_mapValues (fun _ => renew interpreter) s.documents k

theorem Formed.put {s : Scheduler} (h : Formed s) {id : DocumentId} {slot : Slot}
    (hs : Sound s.interpreter id slot) : Formed (put s id slot) where
  ordered := ordered_insert h.ordered id slot
  sound := by
    intro k slot' hk
    rw [slot?_put] at hk
    split at hk
    · next he =>
      cases hk
      exact he ▸ hs
    · exact h.sound hk

theorem Formed.update {s : Scheduler} (h : Formed s) {id : DocumentId} {f : Slot → Slot}
    (hf : ∀ slot, Sound s.interpreter id slot → Sound s.interpreter id (f slot)) :
    Formed (s.update id f) := by
  cases hs : s.slot? id with
  | none => rwa [update_none hs]
  | some slot =>
    rw [update_eq_put hs]
    exact h.put (hf slot (h.sound hs))

theorem Sound.renew {interpreter : Path} {id : DocumentId} {slot : Slot}
    (h : Sound interpreter id slot) (p : Path) : Sound interpreter id (renew p slot) := by
  rw [Run.renew]
  split
  · exact ⟨h.asked, h.latest, h.manned, h.gated⟩
  · exact h

theorem Formed.allowPrompts {s : Scheduler} (h : Formed s) (interpreter : Path) :
    Formed (s.allowPrompts interpreter) where
  ordered := ordered_mapValues (fun _ => renew interpreter) h.ordered
  sound := by
    intro k slot' hk
    rw [slot?_allowPrompts] at hk
    obtain ⟨slot, hs, rfl⟩ := Option.map_eq_some_iff.mp hk
    exact (h.sound hs).renew interpreter

theorem Formed.erase {s : Scheduler} (h : Formed s) (id : DocumentId) :
    Formed { s with documents := Keyed.erase s.documents id } where
  ordered := ordered_erase h.ordered id
  sound := by
    intro k slot hk
    rw [Scheduler.slot?, Keyed.get?_erase] at hk
    split at hk
    · cases hk
    · exact h.sound hk

theorem sound_gated {interpreter : Path} {id : DocumentId} {slot : Slot}
    (h : Sound interpreter id slot) : Sound interpreter id (gated interpreter slot) := by
  rw [gated]
  split
  · exact ⟨h.asked, h.latest, h.manned, fun p hp => (Option.some.inj hp).symm⟩
  · exact h

/-- Every act keeps the form. -/
theorem Formed.does {s s' : Scheduler} {a : Act} (hf : Formed s) (h : Does s a s') :
    Formed s' := by
  cases h with
  | idle => exact hf.congr rfl rfl
  | @ask snapshot due =>
    refine (@Formed.put s hf snapshot.document _ ?_).congr rfl rfl
    cases hs : s.slot? snapshot.document with
    | none => exact ⟨⟨snapshot, rfl, rfl⟩, rfl, by simp [Slot.empty], by simp [Slot.empty]⟩
    | some slot =>
      have h := hf.sound hs
      exact ⟨⟨snapshot, rfl, rfl⟩, h.latest, h.manned, h.gated⟩
  | calm hs =>
    have h := hf.sound hs
    exact hf.put ⟨h.asked, h.latest, h.manned, h.gated⟩
  | release hs ha =>
    have h := hf.sound hs
    refine hf.put ⟨h.asked, ?_, h.manned, h.gated⟩
    rw [ha]
    rfl
  | kill hs =>
    have h := hf.sound hs
    refine (hf.put ?_).congr rfl rfl
    exact ⟨h.asked, rfl, by simp, h.gated⟩
  | park hs =>
    have h := hf.sound hs
    exact hf.put ⟨h.asked, h.latest, h.manned, fun p hp => (Option.some.inj hp).symm⟩
  | prompt hs =>
    have h := hf.sound hs
    refine (hf.put ?_).congr rfl rfl
    exact ⟨h.asked, h.latest, h.manned, h.gated⟩
  | probe => exact hf.congr rfl rfl
  | probeRefused => exact hf.congr rfl rfl
  | start hs =>
    have h := hf.sound hs
    refine (hf.put ?_).congr rfl rfl
    refine ⟨h.asked, rfl, ?_, by simp⟩
    intro run hr
    obtain rfl := Option.some.inj hr
    exact ⟨rfl, rfl, _, rfl⟩
  | miscopy hs =>
    have h := hf.sound hs
    refine (hf.put ?_).congr rfl rfl
    exact ⟨h.asked, h.latest, h.manned, by simp⟩
  | refuse hs =>
    have h := hf.sound hs
    refine (hf.put ?_).congr rfl rfl
    exact ⟨h.asked, h.latest, h.manned, by simp⟩
  | accept hs =>
    have h := hf.sound hs
    refine (hf.put ?_).congr rfl rfl
    exact ⟨h.asked, rfl, by simp, h.gated⟩
  | judge => exact ((hf.congr rfl rfl).allowPrompts _).congr rfl rfl
  | install => exact (hf.update fun slot h => sound_gated h).congr rfl rfl
  | installRefused => exact (hf.update fun slot h => sound_gated h).congr rfl rfl
  | @installed interpreter id success =>
    cases success
    · exact hf.congr rfl rfl
    · exact ((hf.congr rfl rfl).allowPrompts _).congr rfl rfl
  | @close id => exact (hf.erase id).congr rfl rfl

theorem Formed.acts {s s' : Scheduler} {l : List Act} (hf : Formed s) (h : Acts s l s') :
    Formed s' := by
  induction h with
  | nil => exact hf
  | cons first _ ih => exact ih (hf.does first)

def core (slot : Slot) : Slot := { slot with prompted := false }

/-- The slot of a document, the mark of prompts aside. -/
def bare (s : Scheduler) (id : DocumentId) : Option Slot := (s.slot? id).map core

/-- Whatever does not read the mark of prompts can be read off the bare slot. -/
theorem exists_of_bare {s s' : Scheduler} {id : DocumentId} {slot : Slot}
    (h : bare s' id = bare s id) (hs : s.slot? id = some slot) :
    ∃ slot', s'.slot? id = some slot' ∧ core slot' = core slot := by
  rw [bare, bare, hs] at h
  exact Option.map_eq_some_iff.mp h

theorem gated_of_bare {s s' : Scheduler} {id : DocumentId} {slot : Slot} {interpreter : Path}
    (h : bare s' id = bare s id) (hs : s.slot? id = some slot)
    (hg : slot.isGatedOn interpreter = true) :
    ∃ slot', s'.slot? id = some slot' ∧ slot'.isGatedOn interpreter = true := by
  obtain ⟨slot', hs', he⟩ := exists_of_bare h hs
  refine ⟨slot', hs', ?_⟩
  have hgate : (core slot').gatedOn = (core slot).gatedOn := congrArg Slot.gatedOn he
  change slot'.gatedOn = slot.gatedOn at hgate
  rwa [Slot.isGatedOn, hgate]

theorem core_renew (interpreter : Path) (slot : Slot) :
    core (renew interpreter slot) = core slot := by
  rw [renew]
  split <;> rfl

theorem bare_allowPrompts (s : Scheduler) (interpreter : Path) (id : DocumentId) :
    bare (s.allowPrompts interpreter) id = bare s id := by
  simp only [bare, slot?_allowPrompts, Option.map_map, Function.comp_def, core_renew]

theorem bare_put_ne (s : Scheduler) {id k : DocumentId} (slot : Slot) (h : id ≠ k) :
    bare (put s id slot) k = bare s k := by
  simp only [bare, slot?_put, if_neg h]

theorem bare_does {s s' : Scheduler} {a : Act} (h : Does s a s') {k : DocumentId}
    (hk : a.subject ≠ some k) : bare s' k = bare s k := by
  cases h with
  | idle | probe | probeRefused => rfl
  | ask | calm | release | kill | park | start | miscopy | refuse | accept =>
    exact bare_put_ne s _ fun he => hk (congrArg some he)
  | @prompt id slot interpreter hs =>
    change bare (put s id { slot with prompted := true }) k = bare s k
    by_cases he : id = k
    · subst he
      simp only [bare, slot?_put, if_pos, hs]
      rfl
    · exact bare_put_ne s _ he
  | judge => exact bare_allowPrompts ..
  | @installed interpreter id success =>
    cases success
    · rfl
    · exact bare_allowPrompts ..
  | @install id | @installRefused id =>
    change bare (s.update id (gated s.interpreter)) k = bare s k
    have he : id ≠ k := fun he => hk (congrArg some he)
    simp only [bare, slot?_update, if_neg he]
  | @close id =>
    have he : id ≠ k := fun he => hk (congrArg some he)
    simp only [bare, Scheduler.slot?, Keyed.get?_erase, if_neg he]

theorem options_does {s s' : Scheduler} {a : Act} (h : Does s a s') : s'.options = s.options := by
  cases h with
  | @installed interpreter id success => cases success <;> rfl
  | _ => rfl

theorem interpreter_does {s s' : Scheduler} {a : Act} (h : Does s a s') :
    s'.interpreter = s.interpreter :=
  congrArg Options.interpreter (options_does h)

theorem notices_does {s s' : Scheduler} {a : Act} (h : Does s a s') :
    s'.notices = s.notices ++ a.notices := by
  cases h with
  | start | miscopy | refuse | accept | prompt => rfl
  | @installed interpreter id success => cases success <;> rfl
  | _ => exact (List.append_nil _).symm

theorem events_does {s s' : Scheduler} {a : Act} (h : Does s a s') :
    ∃ es, s'.events = s.events ++ es ∧ effects es = a.effects := by
  cases h with
  | calm | release | park | prompt => exact ⟨[], (List.append_nil _).symm, rfl⟩
  | @installed interpreter id success output es hes => cases success <;> exact ⟨es, rfl, hes⟩
  | _ => exact ⟨_, rfl, ‹_›⟩

/-- Tokens and process numbers are not used again. -/
theorem counts_does {s s' : Scheduler} {a : Act} (h : Does s a s') :
    s.processes ≤ s'.processes ∧ s.lastToken ≤ s'.lastToken := by
  cases h with
  | probe | install => exact ⟨Nat.le_succ _, Nat.le_refl _⟩
  | start => exact ⟨Nat.le_succ _, Nat.le_succ _⟩
  | miscopy | refuse => exact ⟨Nat.le_refl _, Nat.le_succ _⟩
  | @installed interpreter id success => cases success <;> exact ⟨Nat.le_refl _, Nat.le_refl _⟩
  | _ => exact ⟨Nat.le_refl _, Nat.le_refl _⟩

section Sequences

variable {s s' : Scheduler} {l : List Act}

theorem bare_acts (h : Acts s l s') {k : DocumentId} (hk : ∀ a ∈ l, a.subject ≠ some k) :
    bare s' k = bare s k := by
  induction h with
  | nil => rfl
  | cons first _ ih =>
    rw [ih fun a ha => hk a (List.mem_cons_of_mem _ ha)]
    exact bare_does first (hk _ List.mem_cons_self)

theorem options_acts (h : Acts s l s') : s'.options = s.options := by
  induction h with
  | nil => rfl
  | cons first _ ih => exact ih.trans (options_does first)

theorem notices_acts (h : Acts s l s') : s'.notices = s.notices ++ l.flatMap Act.notices := by
  induction h with
  | nil => simp
  | cons first _ ih => rw [ih, notices_does first, List.append_assoc, List.flatMap_cons]

theorem events_acts (h : Acts s l s') :
    ∃ es, s'.events = s.events ++ es ∧ effects es = l.flatMap Act.effects := by
  induction h with
  | nil => exact ⟨[], (List.append_nil _).symm, rfl⟩
  | cons first _ ih =>
    obtain ⟨es, he, hes⟩ := events_does first
    obtain ⟨es', he', hes'⟩ := ih
    refine ⟨es ++ es', ?_, ?_⟩
    · rw [he', he, List.append_assoc]
    · rw [effects_append, hes, hes', List.flatMap_cons]

theorem counts_acts (h : Acts s l s') :
    s.processes ≤ s'.processes ∧ s.lastToken ≤ s'.lastToken := by
  induction h with
  | nil => exact ⟨Nat.le_refl _, Nat.le_refl _⟩
  | cons first _ ih =>
    obtain ⟨hp, hk⟩ := counts_does first
    exact ⟨Nat.le_trans hp ih.1, Nat.le_trans hk ih.2⟩

/-- Each act of a sequence is done somewhere in it. -/
theorem Acts.split (h : Acts s l s') {a : Act} (ha : a ∈ l) :
    ∃ u u' pre post, l = pre ++ a :: post ∧ Acts s pre u ∧ Does u a u' ∧ Acts u' post s' := by
  induction h with
  | nil => cases ha
  | @cons s mid s' b l first rest ih =>
    rcases List.mem_cons.mp ha with rfl | ha
    · exact ⟨s, mid, [], l, rfl, .nil s, first, rest⟩
    · obtain ⟨u, u', pre, post, rfl, hpre, hdoes, hpost⟩ := ih ha
      exact ⟨u, u', b :: pre, post, rfl, .cons first hpre, hdoes, hpost⟩

end Sequences

end TraceView.Proofs.Run
