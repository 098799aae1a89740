import TraceView.Run.Delivery
import TraceView.Proofs.Grid.Alignment
import TraceView.Proofs.Text.Blank
import TraceView.Proofs.Text.Lines

/-!
# Rows of a failed run

Of a failed run both outputs are delivered, joined and trimmed. What the program printed is cut into
the same rows as before only if trimming takes nothing off its beginning, nothing but newlines off
its end, and the join ends its last line.
-/
namespace TraceView.Proofs.Grid

open TraceView TraceView.Text TraceView.Run TraceView.Proofs.Text

/-- The texts of the cells of a row. -/
def cellTexts (grid : Grid) (i : Nat) : Option (List String) :=
  (grid.row? i).map fun row => row.cells.map (·.text)

/-- The text under which the end of a process is delivered. -/
def deliveredText (code : Option Int) (stdout stderr : String) : String :=
  (classify (.exited code stdout stderr)).2

/-- Outputs of a failed run whose rows stay where they are. -/
structure StaysInPlace (code : Option Int) (stdout stderr : String) : Prop where
  head : ∀ c, stdout.toList.head? = some c → isBlank c = false
  joined : ¬ AllBlank stderr.toList → stdout.toList.getLast? ≠ some '\r'
  cut : AllBlank stderr.toList → ∀ line ∈ lineChars (blankEnd stdout.toList), line = []
  noted : AllBlank stderr.toList → code = none →
    (lineChars (blankEnd stdout.toList)).length ≤ 1

theorem cellTexts_build {source trace : String} {i : Nat} (h : i < (lines source).length) :
    cellTexts (Grid.build source trace) i =
      some (((traceLine trace i).toList.splitOn separator).map String.ofList) := by
  have hrow : (Grid.build source trace).row? i =
      some (Row.cut (traceLine trace i) (separatorOffsets (lines trace))) := by
    simp [Grid.row?, Grid.build, traceLine, h]
  have htexts := (laid_row trace i).texts
  rw [List.drop_zero] at htexts
  rw [cellTexts, hrow, Option.map_some, ← htexts, List.map_map]
  simp [Function.comp_def]

/-- Rows show the same cells only if they show the same line. -/
theorem cellTexts_eq_iff {source trace trace' : String} {i : Nat} (h : i < (lines source).length) :
    cellTexts (Grid.build source trace) i = cellTexts (Grid.build source trace') i ↔
      traceLine trace i = traceLine trace' i := by
  rw [cellTexts_build h, cellTexts_build h]
  constructor
  · intro he
    have hsplit := List.map_injective_iff.mpr (fun _ _ => String.ofList_injective)
      (Option.some.inj he)
    have hline := congrArg ([separator].intercalate) hsplit
    rw [List.intercalate_splitOn, List.intercalate_splitOn] at hline
    exact String.toList_injective hline
  · intro he
    rw [he]

/-- Lines are found again at the same place, an empty one also past the end. -/
def Keeps (before after : List (List Char)) : Prop :=
  ∀ i, i < before.length → after[i]?.getD [] = before[i]?.getD []

theorem traceLine_eq_iff (trace trace' : String) (i : Nat) :
    traceLine trace i = traceLine trace' i ↔
      (lineChars trace.toList)[i]?.getD [] = (lineChars trace'.toList)[i]?.getD [] := by
  have hline : ∀ t, (traceLine t i).toList = (lineChars t.toList)[i]?.getD [] := by
    intro t
    rw [traceLine, lines, List.getElem?_map]
    cases (lineChars t.toList)[i]? <;> simp
  rw [← hline, ← hline, String.toList_inj]

theorem keeps_nil (after : List (List Char)) : Keeps [] after := fun _ h => nomatch h

theorem keeps_cons {line : List Char} {before after : List (List Char)} :
    Keeps (line :: before) after ↔ after[0]?.getD [] = line ∧ Keeps before after.tail := by
  constructor
  · intro h
    refine ⟨?_, fun i hi => ?_⟩
    · simpa using h 0 (Nat.succ_pos _)
    · simpa using h (i + 1) (Nat.succ_lt_succ hi)
  · rintro ⟨hhead, htail⟩ i hi
    cases i with
    | zero => simpa using hhead
    | succ i => simpa using htail i (Nat.lt_of_succ_lt_succ hi)

theorem keeps_append (init before after : List (List Char)) :
    Keeps (init ++ before) (init ++ after) ↔ Keeps before after := by
  induction init with
  | nil => rfl
  | cons line init ih => simpa [keeps_cons] using ih

theorem keeps_append_self (before rest : List (List Char)) : Keeps before (before ++ rest) := by
  have h := (keeps_append before [] rest).mpr (keeps_nil rest)
  rwa [List.append_nil] at h

theorem keeps_nothing {before : List (List Char)} :
    Keeps before [] ↔ ∀ line ∈ before, line = [] := by
  induction before with
  | nil => simp [keeps_nil]
  | cons line before ih =>
    rw [keeps_cons, List.tail_nil, ih, List.forall_mem_cons]
    simp [eq_comm]

/-- As far as a text goes, its rows are those of another exactly if its lines are kept there. -/
theorem rows_iff_keeps (before after : String) :
    (∀ source i, i < (lines before).length → i < (lines source).length →
      cellTexts (Grid.build source after) i = cellTexts (Grid.build source before) i) ↔
      Keeps (lineChars before.toList) (lineChars after.toList) := by
  have hlength : (lines before).length = (lineChars before.toList).length := List.length_map ..
  constructor
  · intro h i hi
    rw [← hlength] at hi
    exact (traceLine_eq_iff _ _ i).mp ((cellTexts_eq_iff hi).mp (h before i hi hi))
  · intro h source i hi hsource
    rw [hlength] at hi
    exact (cellTexts_eq_iff hsource).mpr ((traceLine_eq_iff _ _ i).mpr (h i hi))

section Delivered

variable {code : Option Int} {stdout stderr : String}

/-- What is written after the outputs of a process that was ended by a signal. -/
def signalNote (code : Option Int) : List Char :=
  if code = none then '\n' :: bySignal.toList else []

theorem combined_toList (h : stdout ≠ "") :
    (Outcome.exited code stdout stderr).combined.toList =
      trimChars (stdout.toList ++ if stderr = "" then [] else '\n' :: stderr.toList) := by
  rw [Outcome.combined, trim, String.toList_ofList]
  split
  · next he =>
    subst he
    simp [h]
  · next he => simp [h, he]

/-- How a process is delivered that ended with a code of its own. -/
theorem deliveredText_code {code : Int} (h : code ≠ 0) (stdout stderr : String) :
    deliveredText (some code) stdout stderr =
      if (Outcome.exited (some code) stdout stderr).combined = "" then
        "tracer exited with code " ++ toString code
      else (Outcome.exited (some code) stdout stderr).combined := by
  unfold deliveredText classify
  split
  · next he => cases he
  · next he =>
    cases he
    exact absurd rfl h
  · next he =>
    cases he
    dsimp only
  · next he => cases he

theorem deliveredText_combined (hcode : code ≠ some 0)
    (h : (Outcome.exited code stdout stderr).combined ≠ "") :
    (deliveredText code stdout stderr).toList =
      (Outcome.exited code stdout stderr).combined.toList ++ signalNote code := by
  cases code with
  | none => simp [deliveredText, classify, h, signalNote, String.toList_append]
  | some code =>
    rw [deliveredText_code (fun he => hcode (congrArg some he)), if_neg h]
    simp [signalNote]

/-- Whatever is delivered of a failed run, it does not begin with a blank. -/
theorem deliveredText_head (hcode : code ≠ some 0) (hout : stdout ≠ "") (stderr : String) : ∃ c cs,
    (deliveredText code stdout stderr).toList = c :: cs ∧ isBlank c = false := by
  by_cases h : (Outcome.exited code stdout stderr).combined = ""
  · cases code with
    | none =>
      refine ⟨'t', "racer terminated by signal".toList, ?_, by decide⟩
      simp [deliveredText, classify, h, bySignal]
    | some code =>
      refine ⟨'t', "racer exited with code ".toList ++ (toString code).toList, ?_, by decide⟩
      rw [deliveredText_code (fun he => hcode (congrArg some he)), if_pos h, String.toList_append]
      simp
  · obtain ⟨c, cs, hcs⟩ := List.exists_cons_of_ne_nil fun he =>
      h (String.toList_eq_nil_iff.mp he)
    refine ⟨c, cs ++ signalNote code, ?_, ?_⟩
    · rw [deliveredText_combined hcode h, hcs, List.cons_append]
    · have htrim := (combined_toList hout).symm.trans hcs
      exact trimChars_head (congrArg List.head? htrim)

variable {c : Char} {cs : List Char}

/-- Nothing is taken off the beginning of what begins without a blank. -/
theorem deliveredText_of_head (hcode : code ≠ some 0) (hout : stdout.toList = c :: cs)
    (hc : isBlank c = false) : (deliveredText code stdout stderr).toList =
      dropEndWhile isBlank (stdout.toList ++ if stderr = "" then [] else '\n' :: stderr.toList) ++
        signalNote code := by
  have hne : stdout ≠ "" := by
    rintro rfl
    cases hout
  have htrim : (Outcome.exited code stdout stderr).combined.toList =
      dropEndWhile isBlank
        (stdout.toList ++ if stderr = "" then [] else '\n' :: stderr.toList) := by
    rw [combined_toList hne, hout, List.cons_append, trimChars_of_head hc]
  rw [deliveredText_combined hcode, htrim]
  intro he
  rw [he, hout] at htrim
  have hblank := List.rdropWhile_eq_nil_iff.mp htrim.symm c List.mem_cons_self
  rw [hc] at hblank
  cases hblank

/-- Errors that say something stand on lines of their own, after the output. -/
theorem deliveredText_joined (hcode : code ≠ some 0) (hout : stdout.toList = c :: cs)
    (hc : isBlank c = false) (herr : ¬ AllBlank stderr.toList) :
    ∃ rest, (deliveredText code stdout stderr).toList = stdout.toList ++ '\n' :: rest := by
  have hne : stderr ≠ "" := by
    rintro rfl
    exact herr fun _ h => nomatch h
  have hrest : dropEndWhile isBlank (stdout.toList ++ '\n' :: stderr.toList) =
      (stdout.toList ++ ['\n']) ++ dropEndWhile isBlank stderr.toList := by
    rw [List.append_cons, dropEndWhile_append_of_not_all herr]
  rw [deliveredText_of_head hcode hout hc, if_neg hne, hrest]
  exact ⟨dropEndWhile isBlank stderr.toList ++ signalNote code, by simp⟩

/-- Without errors the output loses its blank end. -/
theorem deliveredText_cut (hcode : code ≠ some 0) (hout : stdout.toList = c :: cs)
    (hc : isBlank c = false) (herr : AllBlank stderr.toList) :
    (deliveredText code stdout stderr).toList =
      dropEndWhile isBlank stdout.toList ++ signalNote code := by
  rw [deliveredText_of_head hcode hout hc, dropEndWhile_append_of_all]
  intro c hc
  split at hc
  · cases hc
  · rcases List.mem_cons.mp hc with rfl | hc
    · decide
    · exact herr c hc

end Delivered

section Keep

variable {cs : List Char}

/-- A text that begins with a blank has its first line taken or changed. -/
theorem not_keeps_of_blank {c d : Char} {ds : List Char} (hc : isBlank c = true)
    (hd : isBlank d = false) : ¬ Keeps (lineChars (c :: cs)) (lineChars (d :: ds)) := by
  obtain ⟨line, rest, hlines, hline⟩ := lineChars_head c cs
  obtain ⟨hn, hr⟩ := not_break_of_not_blank hd
  obtain ⟨line', rest', hlines'⟩ := startWith_head d (lineChars ds)
  rw [hlines, lineChars_cons hn hr, hlines', keeps_cons]
  rintro ⟨hsame, -⟩
  have hbegin : d :: line' = line := hsame
  rcases hline with rfl | hline
  · cases hbegin
  · subst hbegin
    cases hline
    exact absurd hc (by simp [hd])

/-- Lines stay in place if a newline follows, but for a carriage return at the end. -/
theorem keeps_newline (h : cs ≠ []) (rest : List Char) :
    Keeps (lineChars cs) (lineChars (cs ++ '\n' :: rest)) ↔ cs.getLast? ≠ some '\r' := by
  obtain ⟨init, last, rfl⟩ : ∃ init last, cs = init ++ [last] :=
    ⟨_, _, (List.dropLast_append_getLast h).symm⟩
  rw [List.getLast?_concat, List.append_assoc, List.singleton_append]
  by_cases hn : last = '\n'
  · subst hn
    rw [lineChars_append_newline init ('\n' :: rest)]
    exact iff_of_true (keeps_append_self _ _) (by decide)
  by_cases hr : last = '\r'
  · subst hr
    obtain ⟨init', line, hlines, hrest⟩ := lineChars_append_return init
    rw [hlines, hrest, keeps_append, keeps_cons]
    simp
  · obtain ⟨init', line, hlines, hrest⟩ := lineChars_append_cons hn hr init
    rw [hlines, hrest, lineChars_newline, goOn, List.append_nil, keeps_append]
    exact iff_of_true (keeps_append_self [line] _) (by simpa using hr)

theorem keeps_goOn {line : List Char} {before after : List (List Char)} :
    Keeps (goOn line before) (line :: after) ↔ Keeps before ([] :: after) := by
  cases before with
  | nil => exact iff_of_true (keeps_append_self [line] after) (keeps_nil _)
  | cons next before => simp [goOn, keeps_cons]

/-- Without its blank end a text keeps its lines if only empty ones were in it. -/
theorem keeps_cut {init : List Char} {last : Char} (h : isBlank last = false) :
    Keeps (lineChars (init ++ last :: cs)) (lineChars (init ++ [last])) ↔
      ∀ line ∈ lineChars cs, line = [] := by
  obtain ⟨hn, hr⟩ := not_break_of_not_blank h
  obtain ⟨init', line, hlines, hrest⟩ := lineChars_append_cons hn hr init
  rw [hlines, hrest, keeps_append, keeps_goOn]
  cases lineChars cs with
  | nil => exact iff_of_true (keeps_nil _) (by simp)
  | cons first rest =>
    rw [keeps_cons, List.tail_cons, keeps_nothing, List.forall_mem_cons]
    simp [eq_comm]

/-- A note in place of the blank end takes the line after the last one. -/
theorem keeps_noted {init : List Char} {last : Char} (h : isBlank last = false)
    (hblank : AllBlank cs) :
    Keeps (lineChars (init ++ last :: cs)) (lineChars (init ++ last :: '\n' :: bySignal.toList)) ↔
      (∀ line ∈ lineChars cs, line = []) ∧ (lineChars cs).length ≤ 1 := by
  obtain ⟨hn, hr⟩ := not_break_of_not_blank h
  obtain ⟨init', line, -, hrest⟩ := lineChars_append_cons hn hr init
  have hnote : lineChars bySignal.toList = [bySignal.toList] := by decide
  rw [hrest, hrest, keeps_append, lineChars_newline, hnote, goOn, List.append_nil, keeps_goOn]
  cases hlines : lineChars cs with
  | nil => exact iff_of_true (keeps_nil _) (by simp)
  | cons first rest =>
    rw [keeps_cons]
    cases rest with
    | nil => simp [keeps_nil, eq_comm]
    | cons second rest =>
      refine iff_of_false ?_ (by simp)
      rintro ⟨-, hkeep⟩
      have hsecond : bySignal.toList = second := (keeps_cons.mp hkeep).1
      have hline : second ∈ lineChars cs := by simp [hlines]
      have ht := hblank 't' (mem_of_mem_lineChars hline (hsecond ▸ by decide))
      cases ht

theorem keeps_signalNote (init : List Char) {last : Char} (h : isBlank last = false)
    (hblank : AllBlank cs) (code : Option Int) :
    Keeps (lineChars (init ++ last :: cs)) (lineChars (init ++ [last] ++ signalNote code)) ↔
      (∀ line ∈ lineChars cs, line = []) ∧ (code = none → (lineChars cs).length ≤ 1) := by
  cases code with
  | none =>
    rw [signalNote, if_pos rfl, ← List.append_cons, keeps_noted h hblank]
    simp
  | some code =>
    rw [signalNote, if_neg (by simp), List.append_nil, keeps_cut h]
    simp

end Keep

/-- A failed run keeps its rows exactly if its outputs stay in place. -/
theorem failed_rows_iff {code : Option Int} {stdout stderr : String} (hcode : code ≠ some 0)
    (hout : stdout ≠ "") :
    (∀ source i, i < (lines stdout).length → i < (lines source).length →
      cellTexts (Grid.build source (deliveredText code stdout stderr)) i =
        cellTexts (Grid.build source stdout) i) ↔ StaysInPlace code stdout stderr := by
  rw [rows_iff_keeps]
  obtain ⟨c, cs, hcs⟩ := List.exists_cons_of_ne_nil fun he => hout (String.toList_eq_nil_iff.mp he)
  by_cases hc : isBlank c = true
  · obtain ⟨d, ds, hds, hd⟩ := deliveredText_head hcode hout stderr
    rw [hcs, hds]
    refine iff_of_false (not_keeps_of_blank hc hd) fun h => ?_
    exact absurd (h.head c (by rw [hcs]; rfl)) (by simp [hc])
  have hc : isBlank c = false := Bool.eq_false_iff.mpr hc
  have hhead : ∀ d, stdout.toList.head? = some d → isBlank d = false := by
    intro d hd
    rw [hcs] at hd
    exact Option.some.inj hd ▸ hc
  by_cases herr : AllBlank stderr.toList
  · have hblank : ¬ AllBlank stdout.toList := by
      intro h
      rw [h c (by simp [hcs])] at hc
      cases hc
    obtain ⟨init, last, hlast, hcut, hend⟩ := append_blankEnd hblank
    have hkeep := keeps_signalNote init hlast (allBlank_blankEnd stdout.toList) code
    rw [← hend, ← hcut, ← deliveredText_cut hcode hcs hc herr] at hkeep
    rw [hkeep]
    exact ⟨fun h => ⟨hhead, absurd herr, fun _ => h.1, fun _ => h.2⟩,
      fun h => ⟨h.cut herr, h.noted herr⟩⟩
  · obtain ⟨rest, hrest⟩ := deliveredText_joined hcode hcs hc herr
    rw [hrest, keeps_newline (by simp [hcs])]
    exact ⟨fun h => ⟨hhead, fun _ => h, (absurd · herr), (absurd · herr)⟩, fun h => h.joined herr⟩

/-- A traceback goes below what was printed. -/
theorem failed_rows_iff_traceback : some 1 ≠ some (0 : Int) ∧ "1 |x = 1\n" ≠ "" ∧
    ∀ source i, i < (lines "1 |x = 1\n").length → i < (lines source).length →
      cellTexts (Grid.build source (deliveredText (some 1) "1 |x = 1\n" "Traceback\n")) i =
        cellTexts (Grid.build source "1 |x = 1\n") i := by
  have hcode : some 1 ≠ some (0 : Int) := by decide
  have hout : "1 |x = 1\n" ≠ "" := by decide
  have herr : ¬ AllBlank "Traceback\n".toList := by
    intro h
    exact absurd (h 'T' (by decide)) (by decide)
  have hhead : ∀ c, "1 |x = 1\n".toList.head? = some c → isBlank c = false := by
    intro c hc
    cases Option.some.inj hc
    decide
  exact ⟨hcode, hout, (failed_rows_iff hcode hout).mpr
    ⟨hhead, fun _ => by decide, fun h => absurd h herr, fun h => absurd h herr⟩⟩

/-- A blank line at the beginning is trimmed, and what was printed for the second line of the source
is shown beside the first. -/
theorem failed_rows_shifted : some 1 ≠ some (0 : Int) ∧ "\n1 |x = 1\n" ≠ "" ∧
    0 < (lines "\n1 |x = 1\n").length ∧ 0 < (lines "import math\nx = 1\n").length ∧
      cellTexts (Grid.build "import math\nx = 1\n" (deliveredText (some 1) "\n1 |x = 1\n" "")) 0 =
        some ["1 ", "x = 1"] ∧
      cellTexts (Grid.build "import math\nx = 1\n" "\n1 |x = 1\n") 0 = some [""] := by
  decide +kernel

end TraceView.Proofs.Grid
