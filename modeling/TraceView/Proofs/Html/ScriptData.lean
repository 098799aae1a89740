import Mathlib.Data.List.Forall2
import TraceView.Html.ScriptData

/-!
# Guarded data closes no script

Guarding changes a text only behind a `<`, so the word that follows a `</` is the same before and
after it. Data that closes no script is left as it is.
-/
namespace TraceView.Proofs.Html

open TraceView.Html

/-- The letters of the word `script`, each with all characters that are a case of it. -/
def scriptCases : List (List Char) :=
  [['s', 'S', 'ſ'], ['c', 'C'], ['r', 'R'], ['i', 'I'], ['p', 'P'], ['t', 'T']]

/-- The word `script`, each letter in any case. -/
def IsScript (word : List Char) : Prop := List.Forall₂ (· ∈ ·) word scriptCases

/-- Somewhere in the text stands a `</` with the word `script` behind it. -/
def ClosesScript (cs : List Char) : Prop :=
  ∃ before word after, IsScript word ∧ cs = before ++ '<' :: '/' :: (word ++ after)

/-- The text begins with one character out of each of the lists. -/
def BeginsWith (cases : List (List Char)) (cs : List Char) : Prop :=
  ∃ word after, List.Forall₂ (· ∈ ·) word cases ∧ cs = word ++ after

theorem beginsWith_nil (cs : List Char) : BeginsWith [] cs := ⟨[], cs, .nil, rfl⟩

theorem beginsWith_cons {letters : List Char} {cases : List (List Char)} {cs : List Char} :
    BeginsWith (letters :: cases) cs ↔
      ∃ c rest, cs = c :: rest ∧ c ∈ letters ∧ BeginsWith cases rest := by
  constructor
  · rintro ⟨_, after, hword, rfl⟩
    cases hword with
    | @cons c _ word _ hc hrest => exact ⟨c, word ++ after, rfl, hc, word, after, hrest, rfl⟩
  · rintro ⟨c, _, rfl, hc, word, after, hword, rfl⟩
    exact ⟨c :: word, after, .cons hc hword, rfl⟩

theorem toNat_toLower (c : Char) :
    c.toLower.toNat = if 65 ≤ c.toNat ∧ c.toNat ≤ 90 then c.toNat + 32 else c.toNat := by
  have hupper : (c.val ≥ 'A'.val ∧ c.val ≤ 'Z'.val) ↔ 65 ≤ c.toNat ∧ c.toNat ≤ 90 := Iff.rfl
  unfold Char.toLower
  by_cases h : c.val ≥ 'A'.val ∧ c.val ≤ 'Z'.val
  · rw [dif_pos h, if_pos (hupper.mp h)]
    have hsum : (c.val + ('a'.val - 'A'.val)).toNat = (c.toNat + 32) % 4294967296 := rfl
    have := hupper.mp h
    exact hsum.trans (Nat.mod_eq_of_lt (by omega))
  · rw [dif_neg h, if_neg (mt hupper.mpr h)]

theorem toNat_foldScriptChar (c : Char) :
    (foldScriptChar c).toNat = if c.toNat = 383 then 115 else
      if 65 ≤ c.toNat ∧ c.toNat ≤ 90 then c.toNat + 32 else c.toNat := by
  unfold foldScriptChar
  by_cases h : c = 'ſ'
  · subst h
    rfl
  · have hne : c.toNat ≠ 383 := fun he => h (Char.toNat_inj.mp he)
    rw [if_neg h, if_neg hne, toNat_toLower]

/-- What each letter of the word is folded from. -/
theorem foldScriptChar_iff :
    List.Forall₂ (fun l letters => ∀ c, foldScriptChar c = l ↔ c ∈ letters)
      ['s', 'c', 'r', 'i', 'p', 't'] scriptCases := by
  have hcode : ∀ c l : Char, c = l ↔ c.toNat = l.toNat := fun c l => Char.toNat_inj.symm
  refine .cons ?_ (.cons ?_ (.cons ?_ (.cons ?_ (.cons ?_ (.cons ?_ .nil))))) <;>
  · intro c
    simp only [List.mem_cons, List.not_mem_nil, or_false, hcode, toNat_foldScriptChar,
      Char.reduceToNat]
    split <;> [skip; split] <;> omega

theorem isScriptWord_iff (cs : List Char) :
    isScriptWord cs = true ↔ BeginsWith scriptCases cs := by
  have h : ∀ {letters cases}, List.Forall₂ (fun l letters => ∀ c, foldScriptChar c = l ↔ c ∈ letters)
      letters cases → ∀ cs : List Char,
        ((cs.take letters.length).map foldScriptChar = letters ↔ BeginsWith cases cs) := by
    intro letters cases h
    induction h with
    | nil => exact fun cs => iff_of_true (by simp) (beginsWith_nil cs)
    | cons hl _ ih =>
      intro cs
      rw [beginsWith_cons]
      cases cs with
      | nil => simp
      | cons c rest => simp [hl c, ← ih rest, List.map_take]
  rw [isScriptWord, decide_eq_true_iff]
  exact h foldScriptChar_iff cs

theorem closesScript_cons {c : Char} {cs : List Char} :
    ClosesScript (c :: cs) ↔
      (c = '<' ∧ ∃ rest, cs = '/' :: rest ∧ isScriptWord rest = true) ∨ ClosesScript cs := by
  constructor
  · rintro ⟨before, word, after, hword, he⟩
    cases before with
    | nil =>
      obtain ⟨rfl, rfl⟩ := List.cons.inj he
      exact .inl ⟨rfl, _, rfl, (isScriptWord_iff _).mpr ⟨word, after, hword, rfl⟩⟩
    | cons b before =>
      obtain ⟨rfl, rfl⟩ := List.cons.inj he
      exact .inr ⟨before, word, after, hword, rfl⟩
  · rintro (⟨rfl, rest, rfl, hrest⟩ | ⟨before, word, after, hword, rfl⟩)
    · obtain ⟨word, after, hword, rfl⟩ := (isScriptWord_iff rest).mp hrest
      exact ⟨[], word, after, hword, rfl⟩
    · exact ⟨c :: before, word, after, hword, rfl⟩

theorem guardScriptChars_cons {c : Char} (h : c ≠ '<') (cs : List Char) :
    guardScriptChars (c :: cs) = c :: guardScriptChars cs := by
  rw [guardScriptChars]
  exact fun _ hc => absurd hc h

theorem head?_guardScriptChars (cs : List Char) : (guardScriptChars cs).head? = cs.head? := by
  fun_cases guardScriptChars cs <;> rfl

/-- The word that a text begins with is not changed. -/
theorem beginsWith_guard {cases : List (List Char)} (h : ∀ letters ∈ cases, '<' ∉ letters)
    (cs : List Char) : BeginsWith cases (guardScriptChars cs) ↔ BeginsWith cases cs := by
  induction cases generalizing cs with
  | nil => exact iff_of_true (beginsWith_nil _) (beginsWith_nil _)
  | cons letters cases ih =>
    obtain ⟨hletters, hcases⟩ := List.forall_mem_cons.mp h
    rw [beginsWith_cons, beginsWith_cons]
    cases cs with
    | nil => rfl
    | cons c cs =>
      by_cases hc : c = '<'
      · subst hc
        have hhead := head?_guardScriptChars ('<' :: cs)
        constructor
        · rintro ⟨d, rest, he, hd, -⟩
          rw [he] at hhead
          cases hhead
          exact absurd hd hletters
        · rintro ⟨d, rest, he, hd, -⟩
          cases he
          exact absurd hd hletters
      · rw [guardScriptChars_cons hc]
        simp [ih hcases]

theorem isScriptWord_guard (cs : List Char) :
    isScriptWord (guardScriptChars cs) = isScriptWord cs := by
  rw [Bool.eq_iff_iff, isScriptWord_iff, isScriptWord_iff]
  exact beginsWith_guard (by decide) cs

/-- Nothing that is guarded closes a script. -/
theorem not_closesScript_guard (cs : List Char) : ¬ ClosesScript (guardScriptChars cs) := by
  fun_induction guardScriptChars cs with
  | case1 cs hword ih => simp [closesScript_cons, ih]
  | case2 cs hword ih => simp [closesScript_cons, ih, isScriptWord_guard, hword]
  | case3 c cs hne ih =>
    rw [closesScript_cons, not_or]
    refine ⟨?_, ih⟩
    rintro ⟨rfl, rest, he, -⟩
    have hhead := head?_guardScriptChars cs
    rw [he] at hhead
    cases cs with
    | nil => cases hhead
    | cons d cs =>
      cases hhead
      exact hne cs rfl rfl
  | case4 =>
    rintro ⟨before, word, after, -, he⟩
    simp at he

/-- What closes no script is not changed. -/
theorem guardScriptChars_eq_self {cs : List Char} (h : ¬ ClosesScript cs) :
    guardScriptChars cs = cs := by
  fun_induction guardScriptChars cs with
  | case1 cs hword ih => exact absurd (closesScript_cons.mpr (.inl ⟨rfl, cs, rfl, hword⟩)) h
  | case2 cs hword ih =>
    have hrest : ¬ ClosesScript cs := fun hcs =>
      h (closesScript_cons.mpr (.inr (closesScript_cons.mpr (.inr hcs))))
    rw [ih hrest]
  | case3 c cs hne ih => rw [ih fun hcs => h (closesScript_cons.mpr (.inr hcs))]
  | case4 => rfl

theorem guardScript_guardScript (s : String) : guardScript (guardScript s) = guardScript s := by
  rw [guardScript, guardScript, String.toList_ofList,
    guardScriptChars_eq_self (not_closesScript_guard s.toList)]

end TraceView.Proofs.Html
