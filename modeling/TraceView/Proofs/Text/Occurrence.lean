import TraceView.Text.Occurrence

/-!
# What replacing does

A text is cut at the occurrences of a word; the pieces in between are free of it. Replacing keeps
the pieces and puts the new text in the place of each occurrence.
-/
namespace TraceView.Proofs.Text

open TraceView.Text

/-- The second text is the first with every occurrence of the word replaced. -/
inductive Replaces (word new : List Char) : List Char → List Char → Prop where
  | rest {cs} (hfree : occursIn word cs = false) : Replaces word new cs cs
  | next {piece cs cs'} (hfree : occursIn word piece = false) (hrest : Replaces word new cs cs') :
      Replaces word new (piece ++ (word ++ cs)) (piece ++ (new ++ cs'))

variable {word new cs : List Char} {c : Char}

theorem occursIn_nil (hw : word ≠ []) : occursIn word [] = false :=
  List.isEmpty_eq_false_iff.mpr hw

theorem occursIn_cons (h : ¬ word <+: c :: cs) :
    occursIn word (c :: cs) = occursIn word cs := by
  have hnone : after? word (c :: cs) = none := by
    refine Option.eq_none_iff_forall_ne_some.mpr fun rest hrest => h ⟨rest, ?_⟩
    exact (after?_eq_some_iff.mp hrest).symm
  rw [occursIn, hnone]
  rfl

theorem occursIn_iff : occursIn word cs = true ↔ word <:+: cs := by
  induction cs with
  | nil => rw [occursIn, List.isEmpty_iff, List.infix_nil]
  | cons c cs ih =>
    have hhere : (after? word (c :: cs)).isSome ↔ word <+: c :: cs := by
      rw [Option.isSome_iff_exists]
      exact exists_congr fun rest => after?_eq_some_iff.trans eq_comm
    rw [occursIn, Bool.or_eq_true, hhere, ih, List.infix_cons_iff]

theorem contains_of_not_mem {text word : String} (hc : c ∈ word.toList) (h : c ∉ text.toList) :
    contains text word = false := by
  rw [contains, ← Bool.not_eq_true, occursIn_iff]
  exact fun hwithin => h (hwithin.subset hc)

/-- A word does not reach over a character that it has not. -/
theorem prefix_of_not_mem {front rest : List Char} (hc : c ∉ word)
    (h : word <+: front ++ c :: rest) : word <+: front := by
  rcases List.prefix_or_prefix_of_prefix h (List.prefix_append front (c :: rest)) with h' | h'
  · exact h'
  · obtain ⟨more, rfl⟩ := h'
    rw [List.prefix_append_right_inj] at h
    cases more with
    | nil => simp
    | cons d more =>
      obtain ⟨rfl, -⟩ := List.cons_prefix_cons.mp h
      exact absurd (List.mem_append_right front List.mem_cons_self) hc

theorem replaceFrom_skip (n : Nat) (cs : List Char) :
    replaceFrom word new n cs = replaceFrom word new 0 (cs.drop n) := by
  induction n generalizing cs with
  | zero => rfl
  | succ n ih =>
    cases cs with
    | nil => rfl
    | cons c cs => exact ih cs

theorem replaceFrom_word (hw : word ≠ []) :
    replaceFrom word new 0 (word ++ cs) = new ++ replaceFrom word new 0 cs := by
  cases word with
  | nil => exact absurd rfl hw
  | cons w ws =>
    have hhead : (w :: ws).isPrefixOf (w :: ws ++ cs) = true :=
      List.isPrefixOf_iff_prefix.mpr (List.prefix_append ..)
    rw [List.cons_append] at hhead ⊢
    rw [replaceFrom, if_pos hhead, replaceFrom_skip]
    simp

/-- A text in which no occurrence begins is left as it is. -/
theorem replaceFrom_append {front : List Char}
    (h : ∀ s, s ≠ [] → s <:+ front → ¬ word <+: s ++ cs) :
    replaceFrom word new 0 (front ++ cs) = front ++ replaceFrom word new 0 cs := by
  induction front with
  | nil => rfl
  | cons c front ih =>
    have hno : ¬ word.isPrefixOf (c :: (front ++ cs)) = true :=
      mt List.isPrefixOf_iff_prefix.mp (h _ (List.cons_ne_nil _ _) List.suffix_rfl)
    rw [List.cons_append, replaceFrom, if_neg hno,
      ih fun s hne hs => h s hne (List.suffix_cons_iff.mpr (.inr hs)), List.cons_append]

/-- A character at which no occurrence begins goes to the piece that follows it. -/
theorem Replaces.cons {cs' : List Char} (h : Replaces word new cs cs')
    (hc : ¬ word <+: c :: cs) : Replaces word new (c :: cs) (c :: cs') := by
  cases h with
  | rest hfree => exact .rest (by rw [occursIn_cons hc, hfree])
  | @next piece cs cs' hfree hrest =>
    have hpiece : ¬ word <+: c :: piece := fun h =>
      hc (h.trans (List.prefix_append (c :: piece) (word ++ cs)))
    exact @Replaces.next word new (c :: piece) cs cs' (by rw [occursIn_cons hpiece, hfree]) hrest

theorem replaces_replaceFrom (hw : word ≠ []) :
    ∀ cs, Replaces word new cs (replaceFrom word new 0 cs)
  | [] => .rest (occursIn_nil hw)
  | c :: cs => by
    by_cases hc : word <+: c :: cs
    · obtain ⟨rest, hrest⟩ := hc
      have hshort : rest.length < (c :: cs).length := by
        have hpos := List.length_pos_iff.mpr hw
        have hlength := congrArg List.length hrest
        rw [List.length_append] at hlength
        omega
      rw [← hrest, replaceFrom_word hw]
      exact .next (occursIn_nil hw) (replaces_replaceFrom hw rest)
    · have hno : ¬ word.isPrefixOf (c :: cs) = true := mt List.isPrefixOf_iff_prefix.mp hc
      rw [replaceFrom, if_neg hno]
      exact (replaces_replaceFrom hw cs).cons hc
  termination_by cs => cs.length
  decreasing_by
    · exact hshort
    · exact Nat.lt_succ_self cs.length

theorem toList_replace {text word new : String} (hw : word ≠ "") :
    (replace text word new).toList = replaceFrom word.toList new.toList 0 text.toList := by
  have hempty : word.isEmpty = false := Bool.eq_false_iff.mpr (mt String.isEmpty_iff.mp hw)
  rw [replace, hempty, if_neg Bool.false_ne_true, String.toList_ofList]

/-- Every occurrence is replaced and nothing else changes. -/
theorem replaces_replace {text word new : String} (hw : word ≠ "") :
    Replaces word.toList new.toList text.toList (replace text word new).toList := by
  rw [toList_replace hw]
  exact replaces_replaceFrom (mt String.toList_eq_nil_iff.mp hw) text.toList

/-- A single character is replaced wherever it stands. -/
theorem replaceFrom_singleton (c : Char) (new cs : List Char) :
    replaceFrom [c] new 0 cs = cs.flatMap fun d => if d = c then new else [d] := by
  induction cs with
  | nil => rfl
  | cons d cs ih =>
    rw [List.flatMap_cons, ← ih]
    by_cases h : d = c
    · rw [if_pos h, ← h]
      exact replaceFrom_word (List.cons_ne_nil d [])
    · have hno : ¬ [c].isPrefixOf (d :: cs) = true := by simp [Ne.symm h]
      rw [if_neg h, replaceFrom, if_neg hno]
      rfl

end TraceView.Proofs.Text
