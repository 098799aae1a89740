import TraceView.Text.Lines

/-!
# Lines of a text that goes on

What is written after a text changes its last line at most, and that only by going on with it or, if
it ends in a carriage return, by ending it with a newline.
-/
namespace TraceView.Proofs.Text

open TraceView.Text

/-- Lines read from the end stay as they are, but for what is put before the first of them. -/
theorem foldr_push (cs : List Char) (atBreak : Bool) : ∃ init start atBreak', ∀ line rest,
    cs.foldr LineCut.push ⟨line :: rest, atBreak⟩ =
      ⟨init ++ (start ++ line) :: rest, atBreak'⟩ := by
  induction cs with
  | nil => exact ⟨[], [], atBreak, fun _ _ => rfl⟩
  | cons c cs ih =>
    obtain ⟨init, start, atBreak', h⟩ := ih
    simp only [List.foldr_cons, h, LineCut.push]
    split
    · exact ⟨[] :: init, start, true, fun _ _ => rfl⟩
    · split
      · exact ⟨init, start, false, fun _ _ => rfl⟩
      · cases init with
        | nil => exact ⟨[], c :: start, false, fun _ _ => rfl⟩
        | cons first init => exact ⟨(c :: first) :: init, start, false, fun _ _ => rfl⟩

theorem lineChars_append (cs rest : List Char) :
    lineChars (cs ++ rest) = (cs.foldr LineCut.push (cutLines rest)).lines := by
  rw [lineChars, cutLines, List.foldr_append]
  rfl

/-- The lines after a newline are those of what is written after it. -/
theorem lineChars_append_newline (cs rest : List Char) :
    lineChars (cs ++ '\n' :: rest) = lineChars (cs ++ ['\n']) ++ lineChars rest := by
  obtain ⟨init, start, atBreak, h⟩ := foldr_push cs true
  have hcut : ∀ tail, cutLines ('\n' :: tail) = ⟨[] :: lineChars tail, true⟩ := fun _ => rfl
  rw [lineChars_append, lineChars_append, hcut, hcut, h, h]
  simp [lineChars_nil]

/-- Lines whose first goes on with a line that was begun before. -/
def goOn (line : List Char) : List (List Char) → List (List Char)
  | [] => [line]
  | next :: rest => (line ++ next) :: rest

/-- After an ordinary character the last line goes on. -/
theorem lineChars_append_cons {c : Char} (hn : c ≠ '\n') (hr : c ≠ '\r') (cs : List Char) :
    ∃ init line, lineChars (cs ++ [c]) = init ++ [line] ∧
      ∀ rest, lineChars (cs ++ c :: rest) = init ++ goOn line (lineChars rest) := by
  obtain ⟨init, start, atBreak, h⟩ := foldr_push cs false
  have hcut : ∀ tail, cutLines (c :: tail) = ⟨startWith c (lineChars tail), false⟩ := by
    intro tail
    have hlines := lineChars_cons hn hr tail
    have hbreak : (cutLines (c :: tail)).atBreak = false := by
      simp [cutLines, LineCut.push, hn, hr]
    rw [← hlines, ← hbreak]
    rfl
  have hgo : ∀ rest,
      lineChars (cs ++ c :: rest) = init ++ goOn (start ++ [c]) (lineChars rest) := by
    intro rest
    rw [lineChars_append, hcut]
    cases lineChars rest <;> simp [startWith, goOn, h]
  exact ⟨init, start ++ [c], hgo [], hgo⟩

/-- A newline after a carriage return takes it off the line. -/
theorem lineChars_append_return (cs : List Char) : ∃ init line,
    lineChars (cs ++ ['\r']) = init ++ [line ++ ['\r']] ∧
      ∀ rest, lineChars (cs ++ '\r' :: '\n' :: rest) = init ++ line :: lineChars rest := by
  obtain ⟨init, start, atBreak, h⟩ := foldr_push cs false
  refine ⟨init, start, ?_, fun rest => ?_⟩
  · rw [lineChars_append]
    exact congrArg LineCut.lines (h ['\r'] [])
  · rw [lineChars_append]
    have hlines := congrArg LineCut.lines (h [] (lineChars rest))
    rw [List.append_nil] at hlines
    exact hlines

theorem lines_of_atBreak {cs : List Char} (h : (cutLines cs).atBreak = true) :
    ∃ rest, lineChars cs = [] :: rest := by
  cases cs with
  | nil => cases h
  | cons c cs =>
    change (LineCut.push c (cutLines cs)).atBreak = true at h
    change ∃ rest, (LineCut.push c (cutLines cs)).lines = [] :: rest
    rw [LineCut.push] at h ⊢
    split
    · exact ⟨_, rfl⟩
    · next hn =>
      rw [if_neg hn] at h
      split at h <;> cases h

/-- A character ends an empty line, is taken off with the newline after it, or begins a line. -/
theorem lineChars_cons_cases (c : Char) (cs : List Char) :
    lineChars (c :: cs) = [] :: lineChars cs ∨
      (lineChars (c :: cs) = lineChars cs ∧ ∃ rest, lineChars cs = [] :: rest) ∨
      lineChars (c :: cs) = startWith c (lineChars cs) := by
  have hcut : lineChars (c :: cs) = (LineCut.push c (cutLines cs)).lines := rfl
  rw [hcut, LineCut.push]
  split
  · exact .inl rfl
  · split
    · next hr => exact .inr (.inl ⟨rfl, lines_of_atBreak (Bool.and_eq_true_iff.mp hr).2⟩)
    · exact .inr (.inr rfl)

theorem startWith_head (c : Char) (lines : List (List Char)) :
    ∃ line rest, startWith c lines = (c :: line) :: rest := by
  cases lines <;> exact ⟨_, _, rfl⟩

/-- The first line is empty or begins as the text does. -/
theorem lineChars_head (c : Char) (cs : List Char) : ∃ line rest,
    lineChars (c :: cs) = line :: rest ∧ (line = [] ∨ line.head? = some c) := by
  rcases lineChars_cons_cases c cs with h | ⟨h, rest, hrest⟩ | h
  · exact ⟨[], _, h, .inl rfl⟩
  · exact ⟨[], rest, h.trans hrest, .inl rfl⟩
  · obtain ⟨line, rest, he⟩ := startWith_head c (lineChars cs)
    exact ⟨c :: line, rest, h.trans he, .inr rfl⟩

theorem mem_of_mem_startWith {c c' : Char} {lines : List (List Char)} {line : List Char}
    (hl : line ∈ startWith c lines) (hc : c' ∈ line) : c' = c ∨ ∃ l ∈ lines, c' ∈ l := by
  cases lines with
  | nil =>
    cases List.mem_singleton.mp hl
    exact .inl (List.mem_singleton.mp hc)
  | cons first rest =>
    rcases List.mem_cons.mp hl with rfl | hl
    · rcases List.mem_cons.mp hc with he | hc
      · exact .inl he
      · exact .inr ⟨first, List.mem_cons_self, hc⟩
    · exact .inr ⟨line, List.mem_cons_of_mem _ hl, hc⟩

theorem mem_of_mem_lineChars {cs line : List Char} {c : Char} (hl : line ∈ lineChars cs)
    (hc : c ∈ line) : c ∈ cs := by
  induction cs generalizing line with
  | nil => cases hl
  | cons c' cs ih =>
    rcases lineChars_cons_cases c' cs with h | ⟨h, -⟩ | h
    · rw [h] at hl
      rcases List.mem_cons.mp hl with rfl | hl
      · cases hc
      · exact List.mem_cons_of_mem _ (ih hl hc)
    · exact List.mem_cons_of_mem _ (ih (h ▸ hl) hc)
    · rw [h] at hl
      rcases mem_of_mem_startWith hl hc with rfl | ⟨l, hl', hc'⟩
      · exact List.mem_cons_self
      · exact List.mem_cons_of_mem _ (ih hl' hc')

end TraceView.Proofs.Text
