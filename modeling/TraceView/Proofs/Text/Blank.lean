import Mathlib.Data.List.DropRight
import TraceView.Text.Blank

/-!
# Blank ends of a text

What trimming leaves of a text, and the blanks that it takes off the end.
-/
namespace TraceView.Proofs.Text

open TraceView.Text

def AllBlank (cs : List Char) : Prop := ∀ c ∈ cs, isBlank c = true

instance (cs : List Char) : Decidable (AllBlank cs) :=
  List.decidableBAll (isBlank · = true) cs

/-- The blanks at the end of a text. -/
def blankEnd (cs : List Char) : List Char := cs.rtakeWhile isBlank

variable {p : Char → Bool} {c : Char} {cs rest : List Char}

theorem not_break_of_not_blank (h : isBlank c = false) : c ≠ '\n' ∧ c ≠ '\r' := by
  constructor
  · rintro rfl
    exact absurd h (by decide)
  · rintro rfl
    exact absurd h (by decide)

theorem not_has_of_blank {ranges : CharSet}
    (hapart : ∀ r ∈ blankChars, ∀ s ∈ ranges, r.2 < s.1 ∨ s.2 < r.1) (h : isBlank c = true) :
    ranges.has c = false := by
  obtain ⟨r, hr, hlow, hhigh⟩ := (CharSet.has_iff _ _).mp h
  refine Bool.eq_false_iff.mpr fun hhas => ?_
  obtain ⟨s, hs, hlow', hhigh'⟩ := (CharSet.has_iff _ _).mp hhas
  have hout := hapart r hr s hs
  omega

theorem dropEndWhile_append_of_all (h : ∀ c ∈ rest, p c = true) :
    dropEndWhile p (cs ++ rest) = dropEndWhile p cs := by
  rw [dropEndWhile, List.reverse_append,
    List.dropWhile_append_of_pos fun c hc => h c (List.mem_reverse.mp hc), dropEndWhile]

theorem dropEndWhile_append_of_not_all (h : ¬ ∀ c ∈ rest, p c = true) :
    dropEndWhile p (cs ++ rest) = cs ++ dropEndWhile p rest := by
  have hrest : rest.reverse.dropWhile p ≠ [] := fun he => h (List.rdropWhile_eq_nil_iff.mp
    (congrArg List.reverse he))
  rw [dropEndWhile, List.reverse_append, List.dropWhile_append, if_neg (by simpa using hrest),
    List.reverse_append, List.reverse_reverse, dropEndWhile]

theorem dropEndWhile_of_last (h : p c = false) : dropEndWhile p (cs ++ [c]) = cs ++ [c] := by
  rw [dropEndWhile, List.reverse_append, List.reverse_singleton, List.singleton_append,
    List.dropWhile_cons_of_neg (by simp [h]), List.reverse_cons, List.reverse_reverse]

theorem dropEndWhile_append_cons (h : p c = false) :
    dropEndWhile p (cs ++ c :: rest) = cs ++ c :: dropEndWhile p rest := by
  rw [List.append_cons]
  by_cases hrest : ∀ c ∈ rest, p c = true
  · have hnil : dropEndWhile p rest = [] := List.rdropWhile_eq_nil_iff.mpr hrest
    rw [dropEndWhile_append_of_all hrest, dropEndWhile_of_last h, hnil]
  · rw [dropEndWhile_append_of_not_all hrest, List.append_assoc, List.singleton_append]

/-- A text that has no blank is not trimmed. -/
theorem trimChars_of_no_blank (h : ∀ c ∈ cs, isBlank c = false) : trimChars cs = cs := by
  have hkeep : ∀ cs : List Char, (∀ c ∈ cs, isBlank c = false) → cs.dropWhile isBlank = cs := by
    intro cs h
    cases cs with
    | nil => rfl
    | cons c cs => rw [List.dropWhile_cons_of_neg (by simp [h c List.mem_cons_self])]
  rw [trimChars, hkeep cs h, dropEndWhile, hkeep _ fun c hc => h c (List.mem_reverse.mp hc),
    List.reverse_reverse]

/-- Blanks at either end make no difference to what trimming leaves. -/
theorem trimChars_append_right (h : AllBlank rest) : trimChars (cs ++ rest) = trimChars cs := by
  rw [trimChars, trimChars, List.dropWhile_append]
  split
  · next hcs =>
    have hrest : rest.dropWhile isBlank = [] := List.dropWhile_eq_nil_iff.mpr h
    rw [hrest, List.isEmpty_iff.mp hcs]
  · exact dropEndWhile_append_of_all h

theorem trimChars_append_left (h : AllBlank cs) : trimChars (cs ++ rest) = trimChars rest := by
  rw [trimChars, trimChars, List.dropWhile_append_of_pos h]

/-- A trimmed text does not begin with a blank. -/
theorem trimChars_head (h : (trimChars cs).head? = some c) : isBlank c = false := by
  have hprefix : trimChars cs <+: cs.dropWhile isBlank := List.rdropWhile_prefix ..
  have hhead := List.head?_dropWhile_not isBlank cs
  obtain ⟨tail, htail⟩ := hprefix
  rw [← htail, List.head?_append, h] at hhead
  exact hhead

theorem trimChars_of_head (h : isBlank c = false) :
    trimChars (c :: cs) = dropEndWhile isBlank (c :: cs) := by
  rw [trimChars, List.dropWhile_cons_of_neg (by simp [h])]

/-- A text that is not all blank is what is left without its blank end, and that ends with a
character that is not blank. -/
theorem append_blankEnd (h : ¬ AllBlank cs) : ∃ init last, isBlank last = false ∧
    dropEndWhile isBlank cs = init ++ [last] ∧ cs = init ++ last :: blankEnd cs := by
  have hne : cs.rdropWhile isBlank ≠ [] := fun he => h (List.rdropWhile_eq_nil_iff.mp he)
  refine ⟨_, _, by simpa using List.rdropWhile_last_not isBlank cs hne,
    (List.dropLast_append_getLast hne).symm, ?_⟩
  rw [← List.singleton_append, ← List.append_assoc, List.dropLast_append_getLast hne, blankEnd,
    List.rdropWhile_append_rtakeWhile]

theorem allBlank_blankEnd (cs : List Char) : AllBlank (blankEnd cs) := fun _ hc =>
  List.mem_rtakeWhile_imp hc

end TraceView.Proofs.Text
