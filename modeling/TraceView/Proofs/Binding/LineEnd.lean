import TraceView.Binding.FirstLine
import TraceView.Proofs.Binding.Target

/-!
# Blanks at the end of a line

A line binds the same names with and without blanks at its end: an assignment ends with its operator
and a loop header with an identifier, so neither goes on into them.
-/

namespace TraceView.Proofs.Binding

open TraceView TraceView.Binding TraceView.Text TraceView.Proofs.Text

variable {cs tail front rest : List Char} {c : Char}

theorem isIdentStart_of_blank (h : isBlank c = true) : isIdentStart c = false := by
  refine Bool.eq_false_iff.mpr fun hstart => ?_
  have hident := isIdentChar_of_start hstart
  rw [isIdentChar_of_blank h] at hident
  cases hident

theorem isWordChar_of_blank (h : isBlank c = true) : isWordChar c = false :=
  not_has_of_blank (by decide +kernel) h

/-- What ends with a character that is not blank ends before the blanks at the end of the line. -/
theorem before_blanks (h : front ++ rest = cs ++ tail) (htail : AllBlank tail)
    (hlast : ∀ c, front.getLast? = some c → isBlank c = false) :
    ∃ more, cs = front ++ more ∧ rest = more ++ tail := by
  rcases List.append_eq_append_iff.mp h with ⟨more, hcs, hrest⟩ | ⟨part, hfront, htail'⟩
  · exact ⟨more, hcs, hrest⟩
  · rcases List.eq_nil_or_concat' part with rfl | ⟨init, last, rfl⟩
    · exact ⟨[], by simpa using hfront.symm, by simpa using htail'.symm⟩
    · have hblank : isBlank last = true := htail last (by simp [htail'])
      have hno := hlast last (by simp [hfront])
      rw [hblank] at hno
      cases hno

theorem allBlank_nil : AllBlank [] := fun _ hc => absurd hc List.not_mem_nil

theorem head_append_blanks (htail : AllBlank tail) (hc : isBlank c = false) :
    (rest ++ tail).head? = some c ↔ rest.head? = some c := by
  cases rest with
  | cons => rfl
  | nil =>
    refine iff_of_false (fun h => ?_) (by simp)
    rw [htail c (List.mem_of_mem_head? h)] at hc
    cases hc

theorem assignment?_append_blanks (htail : AllBlank tail) (cs : List Char) :
    assignment? (cs ++ tail) = (assignment? cs).map fun a => ⟨a.name, a.rest ++ tail⟩ := by
  cases ha : assignment? cs with
  | some a =>
    obtain ⟨hname, gap, sub, op, hassigns, hcs⟩ := assignment?_some ha
    rw [hcs]
    simp only [List.append_assoc]
    exact assignment?_append hname hassigns
  | none =>
    refine Option.eq_none_iff_forall_ne_some.mpr fun a hsome => ?_
    obtain ⟨hname, gap, sub, op, hassigns, hcs⟩ := assignment?_some hsome
    have hfront : (a.name ++ (gap ++ (sub ++ op))) ++ a.rest = cs ++ tail := by simp [hcs]
    obtain ⟨more, hmore, -⟩ := before_blanks hfront htail fun c hc => by
      obtain rfl : '=' = c := by simpa [List.getLast?_append, operator_last op hassigns.op] using hc
      decide
    simp only [List.append_assoc] at hmore
    rw [hmore, assignment?_append hname hassigns] at ha
    cases ha

theorem compares_append_blanks (htail : AllBlank tail) (a : Assignment) :
    (⟨a.name, a.rest ++ tail⟩ : Assignment).compares = a.compares := by
  rw [Bool.eq_iff_iff, compares_iff, compares_iff]
  exact head_append_blanks htail (by decide)

theorem assignedFrom_blanks (htail : AllBlank tail) (skip : Nat) : assignedFrom skip tail = [] := by
  induction tail generalizing skip with
  | nil => rw [assignedFrom]
  | cons c tail ih =>
    obtain ⟨hc, htail⟩ := List.forall_mem_cons.mp htail
    cases skip with
    | succ skip => rw [assignedFrom, ih htail]
    | zero =>
      have hnone : assignment? (c :: tail) = none := if_neg (by simp [isIdentStart_of_blank hc])
      rw [assignedFrom, hnone, ih htail]

theorem assignedFrom_append_blanks (htail : AllBlank tail) (skip : Nat) (cs : List Char) :
    assignedFrom skip (cs ++ tail) = assignedFrom skip cs := by
  have hlength : ∀ cs rest : List Char,
      (cs ++ tail).length - (rest ++ tail).length = cs.length - rest.length := by
    intro cs rest
    rw [List.length_append, List.length_append, Nat.add_sub_add_right]
  fun_induction assignedFrom skip cs with
  | case1 skip => exact assignedFrom_blanks htail skip
  | case2 skip c cs ih => rw [List.cons_append, assignedFrom, ih]
  | case3 c cs hnone ih =>
    have hsame := assignment?_append_blanks htail (c :: cs)
    rw [hnone, List.cons_append] at hsame
    rw [List.cons_append, assignedFrom, hsame]
    exact ih
  | case4 c cs a ha hc ih =>
    have hsame := assignment?_append_blanks htail (c :: cs)
    rw [ha, List.cons_append] at hsame
    rw [List.cons_append, assignedFrom, hsame]
    exact (if_pos ((compares_append_blanks htail a).trans hc)).trans ih
  | case5 c cs a ha hc ih =>
    have hsame := assignment?_append_blanks htail (c :: cs)
    rw [ha, List.cons_append] at hsame
    rw [List.cons_append, assignedFrom, hsame]
    refine (if_neg ?_).trans ?_
    · rwa [compares_append_blanks htail a]
    · rw [hlength, ih]

theorem identifier?_append_blanks (htail : AllBlank tail) (cs : List Char) :
    identifier? (cs ++ tail) = (identifier? cs).map fun r => (r.1, r.2 ++ tail) := by
  cases cs with
  | nil =>
    cases tail with
    | nil => rfl
    | cons c tail => exact if_neg (by simp [isIdentStart_of_blank (htail c List.mem_cons_self)])
  | cons c cs =>
    have hident : ∀ d ∈ (c :: cs).takeWhile isIdentChar, isIdentChar d = true := fun _ hd =>
      List.mem_takeWhile_imp hd
    have hhead : ∀ d, ((c :: cs).dropWhile isIdentChar ++ tail).head? = some d →
        isIdentChar d = false := by
      intro d hd
      have hdrop := List.head?_dropWhile_not isIdentChar (c :: cs)
      cases hrest : (c :: cs).dropWhile isIdentChar with
      | nil =>
        rw [hrest] at hd
        exact isIdentChar_of_blank (htail d (List.mem_of_mem_head? hd))
      | cons e rest =>
        rw [hrest] at hd hdrop
        cases hd
        exact hdrop
    have hsplit : c :: (cs ++ tail) =
        (c :: cs).takeWhile isIdentChar ++ ((c :: cs).dropWhile isIdentChar ++ tail) := by
      rw [← List.append_assoc, List.takeWhile_append_dropWhile, List.cons_append]
    rw [List.cons_append, identifier?, identifier?]
    split
    · rw [hsplit, takeWhile_append_of_head hident hhead, dropWhile_append_of_head hident hhead]
      rfl
    · rfl

/-- Passing over blanks reaches the blanks at the end of a line only if nothing else is left. -/
theorem skipBlanks_append_blanks (htail : AllBlank tail) (cs : List Char) :
    skipBlanks (cs ++ tail) = skipBlanks cs ++ tail ∨
      skipBlanks (cs ++ tail) = [] ∧ skipBlanks cs = [] := by
  rw [skipBlanks, skipBlanks, List.dropWhile_append]
  split
  · next hcs => exact .inr ⟨List.dropWhile_eq_nil_iff.mpr htail, List.isEmpty_iff.mp hcs⟩
  · exact .inl rfl

theorem atWordEnd_append_blanks (htail : AllBlank tail) (cs : List Char) :
    atWordEnd (cs ++ tail) = atWordEnd cs := by
  cases cs with
  | cons => rfl
  | nil =>
    cases tail with
    | nil => rfl
    | cons c tail =>
      have hword := isWordChar_of_blank (htail c List.mem_cons_self)
      simp [atWordEnd, hword]

theorem targetsFrom_blanks (htail : AllBlank tail) (n : Nat) : targetsFrom n tail = none := by
  have hnone := identifier?_append_blanks htail []
  rw [List.nil_append] at hnone
  cases n with
  | zero => rw [targetsFrom]
  | succ n =>
    rw [targetsFrom, hnone]
    rfl

theorem length_of_identifier? {name : List Char} (h : identifier? cs = some (name, rest)) :
    rest.length < cs.length := by
  cases cs with
  | nil => cases h
  | cons c cs =>
    rw [identifier?] at h
    split at h
    · next hc =>
      cases h
      rw [List.dropWhile_cons_of_pos (isIdentChar_of_start hc)]
      exact Nat.lt_succ_of_le (List.dropWhile_suffix _).length_le
    · cases h

theorem afterComma?_of_not_comma (h : (skipBlanks cs).head? ≠ some ',') :
    afterComma? cs = none := by
  rw [afterComma?]
  split
  · next rest hcs => exact absurd (congrArg List.head? hcs) h
  · rfl

theorem afterComma?_append_blanks (htail : AllBlank tail) (cs : List Char) :
    afterComma? (cs ++ tail) = none ∧ afterComma? cs = none ∨
      ∃ more, afterComma? cs = some more ∧ more.length ≤ cs.length ∧
        (afterComma? (cs ++ tail) = some (more ++ tail) ∨
          afterComma? (cs ++ tail) = some [] ∧ more = []) := by
  by_cases hcomma : (skipBlanks cs).head? = some ','
  · obtain ⟨rest, hrest⟩ : ∃ rest, skipBlanks cs = ',' :: rest :=
      ⟨_, List.eq_cons_of_mem_head? hcomma⟩
    have hskip : skipBlanks (cs ++ tail) = ',' :: (rest ++ tail) := by
      rcases skipBlanks_append_blanks htail cs with h | ⟨-, h⟩
      · rw [h, hrest, List.cons_append]
      · rw [h] at hrest
        cases hrest
    have hlength : (skipBlanks cs).length ≤ cs.length := (List.dropWhile_suffix _).length_le
    have hshort : (skipBlanks rest).length ≤ rest.length := (List.dropWhile_suffix _).length_le
    rw [hrest, List.length_cons] at hlength
    refine .inr ⟨skipBlanks rest, by rw [afterComma?, hrest]; rfl, by omega, ?_⟩
    rw [afterComma?, hskip]
    rcases skipBlanks_append_blanks htail rest with h | ⟨h, h'⟩
    · exact .inl (congrArg some h)
    · exact .inr ⟨congrArg some h, h'⟩
  · refine .inl ⟨afterComma?_of_not_comma fun h => hcomma ?_, afterComma?_of_not_comma hcomma⟩
    rcases skipBlanks_append_blanks htail cs with hskip | ⟨hskip, -⟩
    · rw [hskip] at h
      exact (head_append_blanks htail (by decide)).mp h
    · rw [hskip] at h
      cases h

/-- The blanks at the end are left over, and make no difference to the targets. The bound does not
either, once it is that of the length. -/
theorem targetsFrom_append_blanks (htail : AllBlank tail) {m n : Nat} (hm : cs.length ≤ m)
    (hn : cs.length ≤ n) :
    targetsFrom n (cs ++ tail) = (targetsFrom m cs).map fun r => (r.1, r.2 ++ tail) := by
  -- each target takes a character at least, so both bounds stay enough for what is left
  induction m generalizing cs n with
  | zero =>
    obtain rfl := List.length_eq_zero_iff.mp (Nat.le_zero.mp hm)
    rw [List.nil_append, targetsFrom_blanks htail, targetsFrom]
    rfl
  | succ m ih =>
    cases n with
    | zero =>
      obtain rfl := List.length_eq_zero_iff.mp (Nat.le_zero.mp hn)
      rw [List.nil_append, targetsFrom_blanks htail, targetsFrom_blanks allBlank_nil]
      rfl
    | succ n =>
      rw [targetsFrom, targetsFrom, identifier?_append_blanks htail]
      cases hname : identifier? cs with
      | none => rfl
      | some r =>
        obtain ⟨name, rest⟩ := r
        have hshort := length_of_identifier? hname
        have hmore : (afterComma? (rest ++ tail)).bind (targetsFrom n) =
            ((afterComma? rest).bind (targetsFrom m)).map fun r => (r.1, r.2 ++ tail) := by
          rcases afterComma?_append_blanks htail rest with ⟨h, h'⟩ | ⟨more, h, hle, h' | ⟨h', rfl⟩⟩
          · rw [h, h']
            rfl
          · rw [h, h']
            exact ih (by omega) (by omega)
          · rw [h, h', Option.bind_some, Option.bind_some, targetsFrom_blanks allBlank_nil,
              targetsFrom_blanks allBlank_nil]
            rfl
        simp only [Option.map_some, hmore, atWordEnd_append_blanks htail]
        cases (afterComma? rest).bind (targetsFrom m) with
        | some r => rfl
        | none => by_cases hend : atWordEnd rest = true <;> simp [hend]

theorem header?_eq_some_iff {r : List (List Char) × List Char} : header? cs = some r ↔
    ∃ c rest, cs = ['f', 'o', 'r'] ++ c :: rest ∧ isBlank c = true ∧
      targetsFrom rest.length (skipBlanks rest) = some r := by
  unfold header?
  split
  · next c rest =>
    constructor
    · intro h
      split at h
      · next hc => exact ⟨c, rest, rfl, hc, h⟩
      · cases h
    · rintro ⟨c', rest', heq, hc, h⟩
      obtain ⟨rfl, rfl⟩ : c = c' ∧ rest = rest' := by simpa using heq
      rw [if_pos hc, h]
  · next hno =>
    refine iff_of_false (by simp) ?_
    rintro ⟨c, rest, rfl, -⟩
    exact hno c rest rfl

theorem header?_append_blanks (htail : AllBlank tail) (cs : List Char) :
    header? (cs ++ tail) = (header? cs).map fun r => (r.1, r.2 ++ tail) := by
  have htargets : ∀ rest : List Char,
      targetsFrom (rest ++ tail).length (skipBlanks (rest ++ tail)) =
        (targetsFrom rest.length (skipBlanks rest)).map fun r => (r.1, r.2 ++ tail) := by
    intro rest
    have hshort : (skipBlanks rest).length ≤ rest.length := (List.dropWhile_suffix _).length_le
    rcases skipBlanks_append_blanks htail rest with h | ⟨h, h'⟩
    · rw [h]
      refine targetsFrom_append_blanks htail hshort ?_
      rw [List.length_append]
      omega
    · rw [h, h', targetsFrom_blanks allBlank_nil, targetsFrom_blanks allBlank_nil]
      rfl
  cases hr : header? cs with
  | some r =>
    obtain ⟨c, rest, rfl, hc, h⟩ := header?_eq_some_iff.mp hr
    refine header?_eq_some_iff.mpr ⟨c, rest ++ tail, by simp, hc, ?_⟩
    rw [htargets, h]
    rfl
  | none =>
    refine Option.eq_none_iff_forall_ne_some.mpr fun r hsome => ?_
    obtain ⟨c, rest, hcs, hc, h⟩ := header?_eq_some_iff.mp hsome
    obtain ⟨more, rfl, hrest⟩ := before_blanks hcs.symm htail fun c hc => by
      obtain rfl : 'r' = c := by simpa using hc
      decide
    cases more with
    | nil =>
      -- the blank after the word is one of those at the end, and no identifier follows it
      rw [List.nil_append] at hrest
      have hskip : skipBlanks rest = [] := List.dropWhile_eq_nil_iff.mpr fun d hd =>
        htail d (hrest ▸ List.mem_cons_of_mem c hd)
      rw [hskip, targetsFrom_blanks allBlank_nil] at h
      cases h
    | cons d more =>
      obtain ⟨rfl, rfl⟩ : c = d ∧ rest = more ++ tail := by simpa using hrest
      rw [htargets] at h
      obtain ⟨r', hr', -⟩ := Option.map_eq_some_iff.mp h
      rw [header?_eq_some_iff.mpr ⟨c, more, rfl, hc, hr'⟩] at hr
      cases hr

theorem loopTargetsFrom_blanks (htail : AllBlank tail) (skip : Nat) (inWord : Bool) :
    loopTargetsFrom skip inWord tail = [] := by
  have hnone : ∀ tail, AllBlank tail → header? tail = none := by
    intro tail htail
    refine Option.eq_none_iff_forall_ne_some.mpr fun r hsome => ?_
    obtain ⟨c, rest, rfl, -⟩ := header?_eq_some_iff.mp hsome
    exact absurd (htail 'f' List.mem_cons_self) (by decide)
  induction tail generalizing skip inWord with
  | nil => rw [loopTargetsFrom]
  | cons c tail ih =>
    obtain ⟨-, hrest⟩ := List.forall_mem_cons.mp htail
    cases skip with
    | succ skip => rw [loopTargetsFrom, ih hrest]
    | zero =>
      rw [loopTargetsFrom, hnone _ htail, ite_self]
      exact ih hrest 0 _

theorem loopTargetsFrom_append_blanks (htail : AllBlank tail) (skip : Nat) (inWord : Bool)
    (cs : List Char) :
    loopTargetsFrom skip inWord (cs ++ tail) = loopTargetsFrom skip inWord cs := by
  have hheader : ∀ (inWord : Bool) (cs : List Char),
      (if inWord then none else header? (cs ++ tail)) =
        (if inWord then none else header? cs).map fun r => (r.1, r.2 ++ tail) := by
    intro inWord cs
    split
    · rfl
    · exact header?_append_blanks htail cs
  fun_induction loopTargetsFrom skip inWord cs with
  | case1 skip inWord => exact loopTargetsFrom_blanks htail skip inWord
  | case2 skip inWord c cs ih => rw [List.cons_append, loopTargetsFrom, ih]
  | case3 inWord c cs hnone ih =>
    rw [List.cons_append, loopTargetsFrom, ← List.cons_append, hheader, hnone]
    exact ih
  | case4 inWord c cs names rest hsome ih =>
    rw [List.cons_append, loopTargetsFrom, ← List.cons_append, hheader, hsome]
    rw [Option.map_some]
    simp only [List.length_append, Nat.add_sub_add_right, ih]

/-- The same names are bound with and without blanks at the end of the line. -/
theorem boundNames_append_blanks (htail : AllBlank tail) (cs : List Char) :
    boundNames (String.ofList (cs ++ tail)) = boundNames (String.ofList cs) := by
  simp only [boundNames, assignedNames, loopTargets, String.toList_ofList,
    assignedFrom_append_blanks htail, loopTargetsFrom_append_blanks htail]

end TraceView.Proofs.Binding
