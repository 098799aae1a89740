import Mathlib.Data.List.Basic
import TraceView.Interpreter

/-!
# Which candidate is taken

The first usable path of those that differ from all before them, in lower case, is taken. That is
the first usable path there is, unless one that cannot be used stands before it and equals it in
lower case: then it is not tried.
-/

namespace TraceView.Proofs.Interpreter

open TraceView TraceView.Interpreter TraceView.Text

/-- The path stands in the list after `before`, and equals none of these in lower case. -/
structure New (paths before : List Path) (p : Path) : Prop where
  split : ∃ after, paths = before ++ p :: after
  fresh : ∀ q ∈ before, lowerCase q ≠ lowerCase p

/-- No new path of the list is usable. -/
def NoneUsable (usable : Path → Bool) (paths : List Path) : Prop :=
  ∀ before p, New paths before p → usable p = false

/-- The path is usable and new, and of those before it no new one is usable. -/
def FirstUsable (usable : Path → Bool) (paths : List Path) (p : Path) : Prop :=
  usable p = true ∧ ∃ before, New paths before p ∧ NoneUsable usable before

/-- What the search of a list finds, and when it finds what a search of all paths does. -/
structure Resolution (usable : Path → Bool) (paths : List Path) (found : Option Path) : Prop where
  found_iff : ∀ p, found = some p ↔ FirstUsable usable paths p
  absent_iff : found = none ↔ NoneUsable usable paths
  plain_iff : found = paths.find? usable ↔ ∀ before p after, paths = before ++ p :: after →
    usable p = true → (∀ q ∈ before, usable q = false) → New paths before p

variable {seen : List String} {paths before : List Path} {p q : Path} {usable : Path → Bool}

/-- A path that is new, and not among the keys that were seen before the list either. -/
structure NewTo (seen : List String) (paths before : List Path) (p : Path) : Prop
    extends New paths before p where
  unseen : lowerCase p ∉ seen

theorem newTo_nil : NewTo [] paths before p ↔ New paths before p :=
  ⟨NewTo.toNew, fun h => ⟨h, List.not_mem_nil⟩⟩

theorem not_newTo_nil : ¬ NewTo seen [] before p := by
  rintro ⟨⟨⟨after, h⟩, -⟩, -⟩
  simp at h

theorem newTo_cons_of_seen (h : lowerCase q ∈ seen) : NewTo seen (q :: paths) before p ↔
    ∃ rest, before = q :: rest ∧ NewTo seen paths rest p := by
  constructor
  · rintro ⟨⟨⟨after, hsplit⟩, hfresh⟩, hunseen⟩
    cases before with
    | nil =>
      obtain ⟨rfl, -⟩ := List.cons.inj hsplit
      exact absurd h hunseen
    | cons r rest =>
      obtain ⟨rfl, htail⟩ := List.cons.inj hsplit
      exact ⟨rest, rfl, ⟨⟨after, htail⟩, fun r hr => hfresh r (List.mem_cons_of_mem _ hr)⟩, hunseen⟩
  · rintro ⟨rest, rfl, ⟨⟨after, rfl⟩, hfresh⟩, hunseen⟩
    refine ⟨⟨⟨after, rfl⟩, List.forall_mem_cons.mpr ⟨fun he => ?_, hfresh⟩⟩, hunseen⟩
    exact hunseen (he ▸ h)

theorem newTo_cons_of_unseen (h : lowerCase q ∉ seen) : NewTo seen (q :: paths) before p ↔
    (before = [] ∧ p = q) ∨
      ∃ rest, before = q :: rest ∧ NewTo (lowerCase q :: seen) paths rest p := by
  constructor
  · rintro ⟨⟨⟨after, hsplit⟩, hfresh⟩, hunseen⟩
    cases before with
    | nil => exact .inl ⟨rfl, (List.cons.inj hsplit).1.symm⟩
    | cons r rest =>
      obtain ⟨rfl, htail⟩ := List.cons.inj hsplit
      obtain ⟨hq, hrest⟩ := List.forall_mem_cons.mp hfresh
      refine .inr ⟨rest, rfl, ⟨⟨after, htail⟩, hrest⟩, fun hmem => ?_⟩
      exact (List.mem_cons.mp hmem).elim (Ne.symm hq) hunseen
  · rintro (⟨rfl, rfl⟩ | ⟨rest, rfl, ⟨⟨after, rfl⟩, hfresh⟩, hunseen⟩)
    · exact ⟨⟨⟨paths, rfl⟩, fun _ hr => absurd hr List.not_mem_nil⟩, h⟩
    · obtain ⟨hq, hseen⟩ := not_or.mp (mt List.mem_cons.mpr hunseen)
      exact ⟨⟨⟨after, rfl⟩, List.forall_mem_cons.mpr ⟨Ne.symm hq, hfresh⟩⟩, hseen⟩

theorem distinctFrom_of_seen (h : lowerCase q ∈ seen) :
    distinctFrom seen (q :: paths) = distinctFrom seen paths :=
  if_pos (List.contains_iff_mem.mpr h)

theorem distinctFrom_of_unseen (h : lowerCase q ∉ seen) :
    distinctFrom seen (q :: paths) = q :: distinctFrom (lowerCase q :: seen) paths :=
  if_neg (mt List.contains_iff_mem.mp h)

theorem mem_distinctFrom_iff (seen : List String) (paths : List Path) (p : Path) :
    p ∈ distinctFrom seen paths ↔ ∃ before, NewTo seen paths before p := by
  induction paths generalizing seen with
  | nil => simp [distinctFrom, not_newTo_nil]
  | cons q paths ih =>
    by_cases hq : lowerCase q ∈ seen
    · rw [distinctFrom_of_seen hq, ih]
      simp only [newTo_cons_of_seen hq, @exists_comm (List Path), exists_eq_left]
    · rw [distinctFrom_of_unseen hq, List.mem_cons, ih]
      simp only [newTo_cons_of_unseen hq, exists_or, @exists_comm (List Path), exists_eq_left]

theorem noneUsable_iff :
    NoneUsable usable paths ↔ ∀ p ∈ distinctFrom [] paths, usable p = false := by
  constructor
  · intro h p hp
    obtain ⟨before, hnew⟩ := (mem_distinctFrom_iff [] paths p).mp hp
    exact h before p hnew.toNew
  · intro h before p hnew
    exact h p ((mem_distinctFrom_iff [] paths p).mpr ⟨before, newTo_nil.mpr hnew⟩)

theorem find?_distinctFrom (seen : List String) (paths : List Path) (p : Path) :
    (distinctFrom seen paths).find? usable = some p ↔ usable p = true ∧ ∃ before,
      NewTo seen paths before p ∧ ∀ q ∈ distinctFrom seen before, usable q = false := by
  -- the keys that were seen grow along the list
  induction paths generalizing seen with
  | nil => simp [distinctFrom, not_newTo_nil]
  | cons q paths ih =>
    by_cases hq : lowerCase q ∈ seen
    · rw [distinctFrom_of_seen hq, ih]
      refine and_congr_right fun _ => ⟨?_, ?_⟩
      · rintro ⟨rest, hnew, hnone⟩
        refine ⟨q :: rest, (newTo_cons_of_seen hq).mpr ⟨rest, rfl, hnew⟩, ?_⟩
        rwa [distinctFrom_of_seen hq]
      · rintro ⟨before, hnew, hnone⟩
        obtain ⟨rest, rfl, hrest⟩ := (newTo_cons_of_seen hq).mp hnew
        rw [distinctFrom_of_seen hq] at hnone
        exact ⟨rest, hrest, hnone⟩
    · rw [distinctFrom_of_unseen hq, List.find?_cons]
      cases husable : usable q with
      | true =>
        constructor
        · intro hfirst
          obtain rfl := Option.some.inj hfirst
          have hnew : NewTo seen (q :: paths) [] q :=
            (newTo_cons_of_unseen hq).mpr (.inl ⟨rfl, rfl⟩)
          exact ⟨husable, [], hnew, by simp [distinctFrom]⟩
        · rintro ⟨-, before, hnew, hnone⟩
          rcases (newTo_cons_of_unseen hq).mp hnew with ⟨-, rfl⟩ | ⟨rest, rfl, -⟩
          · rfl
          · rw [distinctFrom_of_unseen hq] at hnone
            rw [hnone q List.mem_cons_self] at husable
            cases husable
      | false =>
        refine (ih _).trans (and_congr_right fun hp => ⟨?_, ?_⟩)
        · rintro ⟨rest, hnew, hnone⟩
          refine ⟨q :: rest, (newTo_cons_of_unseen hq).mpr (.inr ⟨rest, rfl, hnew⟩), ?_⟩
          rw [distinctFrom_of_unseen hq]
          exact List.forall_mem_cons.mpr ⟨husable, hnone⟩
        · rintro ⟨before, hnew, hnone⟩
          rcases (newTo_cons_of_unseen hq).mp hnew with ⟨-, rfl⟩ | ⟨rest, rfl, hrest⟩
          · rw [hp] at husable
            cases husable
          · rw [distinctFrom_of_unseen hq] at hnone
            exact ⟨rest, hrest, (List.forall_mem_cons.mp hnone).2⟩

theorem find?_distinctFrom_nil (usable : Path → Bool) (paths : List Path) (p : Path) :
    (distinctFrom [] paths).find? usable = some p ↔ FirstUsable usable paths p := by
  rw [find?_distinctFrom, FirstUsable]
  simp only [newTo_nil, noneUsable_iff]

theorem find?_distinctFrom_eq_none (usable : Path → Bool) (paths : List Path) :
    (distinctFrom [] paths).find? usable = none ↔ NoneUsable usable paths := by
  rw [noneUsable_iff, List.find?_eq_none]
  simp

/-- A path has one first place in a list. -/
theorem first_place_unique {before' after after' : List Path} (hp : p ∉ before) (hp' : p ∉ before')
    (h : before ++ p :: after = before' ++ p :: after') : before = before' := by
  rcases List.append_eq_append_iff.mp h with ⟨part, rfl, hpart⟩ | ⟨part, rfl, hpart⟩
  · cases part with
    | nil => exact (List.append_nil before).symm
    | cons q part =>
      obtain ⟨rfl, -⟩ := List.cons.inj hpart
      exact absurd (List.mem_append_right before List.mem_cons_self) hp'
  · cases part with
    | nil => exact List.append_nil before'
    | cons q part =>
      obtain ⟨rfl, -⟩ := List.cons.inj hpart
      exact absurd (List.mem_append_right before' List.mem_cons_self) hp

/-- A search of all paths comes to the same if the first usable one is new. -/
theorem plain_iff (usable : Path → Bool) (paths : List Path) :
    (distinctFrom [] paths).find? usable = paths.find? usable ↔
      ∀ before p after, paths = before ++ p :: after → usable p = true →
        (∀ q ∈ before, usable q = false) → New paths before p := by
  constructor
  · intro h before p after hsplit hp hbefore
    have hplain : paths.find? usable = some p :=
      List.find?_eq_some_iff_append.mpr ⟨hp, before, after, hsplit, by simpa using hbefore⟩
    rw [hplain, find?_distinctFrom_nil] at h
    obtain ⟨-, before', hnew, -⟩ := h
    obtain ⟨after', hsplit'⟩ := hnew.split
    -- both searches found the path at its first place in the list
    have hmem : p ∉ before := fun hmem => by
      rw [hbefore p hmem] at hp
      cases hp
    have hmem' : p ∉ before' := fun hmem => hnew.fresh p hmem rfl
    rwa [first_place_unique hmem hmem' (hsplit.symm.trans hsplit')]
  · intro h
    cases hplain : paths.find? usable with
    | none =>
      refine (find?_distinctFrom_eq_none usable paths).mpr fun before p hnew => ?_
      obtain ⟨after, rfl⟩ := hnew.split
      simpa using List.find?_eq_none.mp hplain p (by simp)
    | some p =>
      obtain ⟨hp, before, after, hsplit, hbefore⟩ := List.find?_eq_some_iff_append.mp hplain
      have hnone : ∀ q ∈ before, usable q = false := by simpa using hbefore
      have hnew := h before p after hsplit hp hnone
      refine (find?_distinctFrom_nil usable paths p).mpr ⟨hp, before, hnew, ?_⟩
      intro earlier q hearlier
      obtain ⟨later, rfl⟩ := hearlier.split
      exact hnone q (by simp)

theorem resolution (usable : Path → Bool) (paths : List Path) :
    Resolution usable paths ((distinctFrom [] paths).find? usable) :=
  ⟨find?_distinctFrom_nil usable paths, find?_distinctFrom_eq_none usable paths,
    plain_iff usable paths⟩

/-- The interpreter is the first usable candidate that is new in lower case, and only without one
the fallback, unchecked. -/
theorem resolve_first_new (env : String → Option String) (configured : Option Path)
    (usable : Path → Bool) :
    Resolution usable (allCandidates env configured) (found? env configured usable) ∧
      resolve env configured usable = (found? env configured usable).getD fallback :=
  ⟨resolution usable (allCandidates env configured), rfl⟩

/-- A usable interpreter is lost where a path that cannot be used, and has its name but for the case
of letters, comes first. -/
theorem usable_interpreter_lost :
    (allCandidates (fun name => if name = "PYTHON_EXECUTABLE" then some "/opt/Py" else none)
      (some "/opt/py")).find? (· == "/opt/py") = some "/opt/py" ∧
    resolve (fun name => if name = "PYTHON_EXECUTABLE" then some "/opt/Py" else none)
      (some "/opt/py") (· == "/opt/py") = "python" := by
  decide +kernel

end TraceView.Proofs.Interpreter
