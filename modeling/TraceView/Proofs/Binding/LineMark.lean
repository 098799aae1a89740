import TraceView.Binding.Placement
import TraceView.Proofs.Binding.Target

/-!
# Fragments of a key that name a line

The search for a fragment is exact: it finds the first place at which the word, blanks and digits
stand, takes all the digits there are, and fails only if there is no such place.
-/

namespace TraceView.Proofs.Binding

open TraceView TraceView.Binding TraceView.Text TraceView.Proofs.Text

/-- A fragment `line N` of a key: the word in letters of either case, blanks, and all the digits
that follow them. -/
inductive Marks : List Char → LineMark → Prop where
  | mk {before word blanks digits rest : List Char}
      (hword : word.map Char.toLower = ['l', 'i', 'n', 'e'])
      (hblanks : AllBlank blanks) (hgap : blanks ≠ [])
      (hdigits : ∀ c ∈ digits, isDecimalDigit c = true) (hsome : digits ≠ [])
      (hall : ∀ c, rest.head? = some c → isDecimalDigit c = false) :
      Marks (before ++ (word ++ (blanks ++ (digits ++ rest)))) ⟨before, digits, rest⟩

structure FirstMark (key : List Char) (m : LineMark) : Prop where
  marks : Marks key m
  first : ∀ m', Marks key m' → m.before.length ≤ m'.before.length

variable {c : Char} {cs more : List Char} {m : LineMark}

theorem isDecimalDigit_of_blank (h : isBlank c = true) : isDecimalDigit c = false :=
  not_has_of_blank (by decide +kernel) h

theorem afterLineWord?_eq_some_iff : afterLineWord? cs = some more ↔
    ∃ word, word.map Char.toLower = ['l', 'i', 'n', 'e'] ∧ cs = word ++ more := by
  rw [afterLineWord?]
  constructor
  · intro h
    split at h
    · next hword =>
      cases h
      exact ⟨cs.take 4, hword, (List.take_append_drop 4 cs).symm⟩
    · cases h
  · rintro ⟨word, hword, rfl⟩
    have hlength : word.length = 4 := by simpa using congrArg List.length hword
    rw [List.take_left' hlength, if_pos hword, List.drop_left' hlength]

theorem skipBlanks_eq_self {blanks digits rest : List Char} (hblanks : AllBlank blanks)
    (hdigits : ∀ c ∈ digits, isDecimalDigit c = true) (hsome : digits ≠ []) :
    skipBlanks (blanks ++ (digits ++ rest)) = digits ++ rest := by
  refine dropWhile_append_of_head hblanks fun c hc => ?_
  obtain ⟨d, digits, rfl⟩ := List.exists_cons_of_ne_nil hsome
  cases hc
  refine Bool.eq_false_iff.mpr fun hblank => ?_
  have hdigit := hdigits c List.mem_cons_self
  rw [isDecimalDigit_of_blank hblank] at hdigit
  cases hdigit

theorem takeWhile_isBlank_ne_nil (h : (cs.head?.map isBlank).getD false = true) :
    cs.takeWhile isBlank ≠ [] := by
  cases cs with
  | nil => cases h
  | cons c cs =>
    have hc : isBlank c = true := h
    rw [List.takeWhile_cons_of_pos hc]
    exact List.cons_ne_nil _ _

theorem markHere?_eq_some_iff : markHere? cs = some m ↔ m.before = [] ∧ Marks cs m := by
  constructor
  · intro h
    rw [markHere?, Option.bind_eq_bind, Option.bind_eq_some_iff] at h
    obtain ⟨more, hmore, h⟩ := h
    obtain ⟨word, hword, rfl⟩ := afterLineWord?_eq_some_iff.mp hmore
    split at h
    · next hblank =>
      simp only at h
      split at h
      · cases h
      · next hdigits =>
        cases h
        refine ⟨rfl, ?_⟩
        have hmarks : Marks ([] ++ (word ++ (more.takeWhile isBlank ++
            ((skipBlanks more).takeWhile isDecimalDigit ++
              (skipBlanks more).dropWhile isDecimalDigit))))
            ⟨[], (skipBlanks more).takeWhile isDecimalDigit,
              (skipBlanks more).dropWhile isDecimalDigit⟩ :=
          .mk hword (fun _ hd => List.mem_takeWhile_imp hd) (takeWhile_isBlank_ne_nil hblank)
            (fun _ hd => List.mem_takeWhile_imp hd) hdigits fun c hd => by
              have hno := List.head?_dropWhile_not isDecimalDigit (skipBlanks more)
              rw [hd] at hno
              exact hno
        rwa [List.takeWhile_append_dropWhile, skipBlanks, List.takeWhile_append_dropWhile,
          List.nil_append] at hmarks
    · cases h
  · rintro ⟨hbefore, h⟩
    obtain @⟨before, word, blanks, digits, rest, hword, hblanks, hgap, hdigits, hsome, hall⟩ := h
    obtain rfl : before = [] := hbefore
    have hmore : afterLineWord? (word ++ (blanks ++ (digits ++ rest))) =
        some (blanks ++ (digits ++ rest)) := afterLineWord?_eq_some_iff.mpr ⟨word, hword, rfl⟩
    have hhead : ((blanks ++ (digits ++ rest)).head?.map isBlank).getD false = true := by
      obtain ⟨b, blanks, rfl⟩ := List.exists_cons_of_ne_nil hgap
      exact hblanks b List.mem_cons_self
    rw [List.nil_append, markHere?, hmore, Option.bind_eq_bind, Option.bind_some, if_pos hhead,
      skipBlanks_eq_self hblanks hdigits hsome]
    simp only [takeWhile_append_of_head hdigits hall, dropWhile_append_of_head hdigits hall,
      if_neg hsome]

theorem Marks.cons (h : Marks cs m) : Marks (c :: cs) { m with before := c :: m.before } := by
  obtain @⟨before, word, blanks, digits, rest, hword, hblanks, hgap, hdigits, hsome, hall⟩ := h
  exact @Marks.mk (c :: before) word blanks digits rest hword hblanks hgap hdigits hsome hall

/-- A fragment stands at the start of a key or in what follows its first character. -/
theorem Marks.of_cons (h : Marks (c :: cs) m) : markHere? (c :: cs) = some m ∨
    ∃ m', Marks cs m' ∧ m = { m' with before := c :: m'.before } := by
  by_cases hbefore : m.before = []
  · exact .inl (markHere?_eq_some_iff.mpr ⟨hbefore, h⟩)
  · generalize hkey : c :: cs = key at h
    obtain @⟨before, word, blanks, digits, rest, hword, hblanks, hgap, hdigits, hsome, hall⟩ := h
    obtain ⟨d, before, rfl⟩ := List.exists_cons_of_ne_nil hbefore
    obtain ⟨rfl, rfl⟩ := List.cons.inj hkey
    exact .inr ⟨⟨before, digits, rest⟩, .mk hword hblanks hgap hdigits hsome hall, rfl⟩

theorem not_marks_nil : ¬ Marks [] m := by
  intro h
  generalize hkey : [] = key at h
  obtain ⟨-, -, hgap, -, -, -⟩ := h
  simp [hgap] at hkey

theorem Marks.digits_ne_nil (h : Marks cs m) : m.digits ≠ [] := by
  obtain ⟨-, -, -, -, hsome, -⟩ := h
  exact hsome

/-- The search finds the first fragment of a key. -/
theorem mark?_eq_some_iff : mark? cs = some m ↔ FirstMark cs m := by
  induction cs generalizing m with
  | nil => exact iff_of_false (by simp [mark?]) fun h => not_marks_nil h.marks
  | cons c cs ih =>
    rw [mark?]
    cases hhere : markHere? (c :: cs) with
    | some m' =>
      obtain ⟨hbefore, hmarks⟩ := markHere?_eq_some_iff.mp hhere
      constructor
      · rintro ⟨⟩
        exact ⟨hmarks, fun _ _ => by rw [hbefore]; exact Nat.zero_le _⟩
      · intro h
        have hle := h.first m' hmarks
        rw [hbefore, List.length_nil] at hle
        have hstart := List.length_eq_zero_iff.mp (Nat.le_zero.mp hle)
        rw [← hhere, markHere?_eq_some_iff.mpr ⟨hstart, h.marks⟩]
    | none =>
      simp only [Option.map_eq_some_iff, ih]
      constructor
      · rintro ⟨m', h, rfl⟩
        refine ⟨h.marks.cons, fun other hother => ?_⟩
        rcases hother.of_cons with hm | ⟨m, hm, rfl⟩
        · rw [hhere] at hm
          cases hm
        · exact Nat.succ_le_succ (h.first m hm)
      · intro h
        rcases h.marks.of_cons with hm | ⟨m', hm, rfl⟩
        · rw [hhere] at hm
          cases hm
        · exact ⟨m', ⟨hm, fun m hm => Nat.le_of_succ_le_succ (h.first _ hm.cons)⟩, rfl⟩

theorem exists_mark? (h : Marks cs m) : ∃ m, mark? cs = some m := by
  induction cs generalizing m with
  | nil => exact absurd h not_marks_nil
  | cons c cs ih =>
    rw [mark?]
    cases hhere : markHere? (c :: cs) with
    | some m' => exact ⟨m', rfl⟩
    | none =>
      rcases h.of_cons with hm | ⟨m', hm, -⟩
      · rw [hhere] at hm
        cases hm
      · obtain ⟨first, hfirst⟩ := ih hm
        exact ⟨_, congrArg (Option.map _) hfirst⟩

theorem mark?_eq_none_iff : mark? cs = none ↔ ∀ m, ¬ Marks cs m := by
  constructor
  · intro h m hm
    obtain ⟨first, hfirst⟩ := exists_mark? hm
    rw [h] at hfirst
    cases hfirst
  · intro h
    exact Option.eq_none_iff_forall_ne_some.mpr fun m hm => h m (mark?_eq_some_iff.mp hm).marks

end TraceView.Proofs.Binding
