import Mathlib.Order.Bounds.Basic
import TraceView.Grid.Cut
import TraceView.Proofs.Binding.LineEnd
import TraceView.Proofs.Text.Lines

/-!
# The first line that binds a name

A name is looked up at the first line that binds it, in the numbering of lines that the rows of a
grid have. Text after the last line does not change what is found: the first line that binds a name
is decided by the lines up to it, and of these a newline takes no more than a blank.
-/

namespace TraceView.Proofs.Binding

open TraceView TraceView.Binding TraceView.Text TraceView.Proofs.Text

/-- Line `i` of the text binds the name. -/
def Binds (text name : String) (i : Nat) : Prop :=
  ∃ line, (Text.lines text)[i]? = some line ∧
    (name ∈ assignedNames line ∨ name ∈ loopTargets line)

/-- Where a name is found in a text. -/
structure FirstBound (text name : String) : Prop where
  found : ∀ i, (FirstLines.ofText text).lookup? name = some i ↔ IsLeast {i | Binds text name i} i
  absent : (FirstLines.ofText text).lookup? name = none ↔ ∀ i, ¬ Binds text name i
  bound : ∀ i, IsLeast {i | Binds text name i} i → (FirstLines.ofText text).lineFor name = i
  /-- The last line, or the first of a text that has none. -/
  unbound : (∀ i, ¬ Binds text name i) →
    (FirstLines.ofText text).lineFor name = (Text.lines text).length - 1
  row : ∀ trace, Text.lines text ≠ [] →
    (FirstLines.ofText text).lineFor name < (Grid.build text trace).rows.length
  stays : ∀ more i, (FirstLines.ofText text).lookup? name = some i →
    (FirstLines.ofText (text ++ "\n" ++ more)).lookup? name = some i

variable {text name line : String} {i : Nat}

theorem mem_boundNames : name ∈ boundNames line ↔
    name ∈ assignedNames line ∨ name ∈ loopTargets line :=
  List.mem_append

theorem get?_note (i : Nat) (m : Keyed String Nat) (name' name : String) :
    Keyed.get? (FirstLines.note i m name') name =
      (Keyed.get? m name).or (if name' = name then some i else none) := by
  rw [FirstLines.note]
  split
  · next hhas =>
    by_cases hname : name' = name
    · subst hname
      rw [if_pos rfl, Option.or_eq_left_of_isSome hhas]
    · rw [if_neg hname, Option.or_none]
  · next hhas =>
    rw [Keyed.get?_insert]
    split
    · next hname =>
      subst hname
      rw [Option.not_isSome_iff_eq_none.mp hhas, Option.none_or]
    · rw [Option.or_none]

theorem get?_foldl_note (i : Nat) (m : Keyed String Nat) (names : List String) (name : String) :
    Keyed.get? (names.foldl (FirstLines.note i) m) name =
      (Keyed.get? m name).or (if name ∈ names then some i else none) := by
  induction names generalizing m with
  | nil => simp
  | cons name' names ih =>
    rw [List.foldl_cons, ih, get?_note, Option.or_assoc]
    by_cases hname : name' = name
    · simp [hname]
    · simp [hname, Ne.symm hname]

/-- Entries stay; a name that has none gets the first of the lines that binds it. -/
theorem get?_ofLines (i : Nat) (m : Keyed String Nat) (lines : List String) (name : String) :
    Keyed.get? (FirstLines.ofLines i m lines) name =
      (Keyed.get? m name).or ((lines.findIdx? (name ∈ boundNames ·)).map (· + i)) := by
  induction lines generalizing i m with
  | nil => simp [FirstLines.ofLines]
  | cons line rest ih =>
    rw [FirstLines.ofLines, ih, get?_foldl_note, Option.or_assoc, List.findIdx?_cons]
    by_cases hname : name ∈ boundNames line
    · simp [hname]
    · simp [hname, Function.comp_def, Nat.add_comm, Nat.add_left_comm]

theorem lookup?_ofText (text name : String) : (FirstLines.ofText text).lookup? name =
    (Text.lines text).findIdx? (name ∈ boundNames ·) := by
  rw [FirstLines.lookup?, FirstLines.ofText]
  simp [get?_ofLines]

theorem binds_iff : Binds text name i ↔
    ∃ h : i < (Text.lines text).length, name ∈ boundNames (Text.lines text)[i] := by
  constructor
  · rintro ⟨line, hline, hname⟩
    obtain ⟨hi, rfl⟩ := List.getElem?_eq_some_iff.mp hline
    exact ⟨hi, mem_boundNames.mpr hname⟩
  · rintro ⟨hi, hname⟩
    exact ⟨_, List.getElem?_eq_getElem hi, mem_boundNames.mp hname⟩

theorem lookup?_eq_some_iff :
    (FirstLines.ofText text).lookup? name = some i ↔ IsLeast {i | Binds text name i} i := by
  rw [lookup?_ofText, List.findIdx?_eq_some_iff_getElem]
  constructor
  · rintro ⟨hi, hname, hbefore⟩
    refine ⟨binds_iff.mpr ⟨hi, of_decide_eq_true hname⟩, fun j hj => Nat.le_of_not_lt fun hlt => ?_⟩
    obtain ⟨_, hearlier⟩ := binds_iff.mp hj
    exact hbefore j hlt (decide_eq_true hearlier)
  · rintro ⟨hbinds, hleast⟩
    obtain ⟨hi, hname⟩ := binds_iff.mp hbinds
    refine ⟨hi, decide_eq_true hname, fun j hlt hname' => ?_⟩
    have hle := hleast (binds_iff.mpr ⟨Nat.lt_trans hlt hi, of_decide_eq_true hname'⟩)
    omega

theorem lookup?_eq_none_iff :
    (FirstLines.ofText text).lookup? name = none ↔ ∀ i, ¬ Binds text name i := by
  rw [lookup?_ofText, List.findIdx?_eq_none_iff]
  constructor
  · rintro h i ⟨line, hline, hname⟩
    have hno := h line (List.mem_of_getElem? hline)
    exact of_decide_eq_false hno (mem_boundNames.mpr hname)
  · intro h line hline
    obtain ⟨i, hi⟩ := List.mem_iff_getElem?.mp hline
    exact decide_eq_false fun hname => h i ⟨line, hi, mem_boundNames.mp hname⟩

theorem lineFor_le_lastLine (text name : String) :
    (FirstLines.ofText text).lineFor name ≤ (FirstLines.ofText text).lastLine := by
  rw [FirstLines.lineFor]
  cases hfound : (FirstLines.ofText text).lookup? name with
  | some i =>
    obtain ⟨hi, -⟩ := binds_iff.mp (lookup?_eq_some_iff.mp hfound).1
    exact Nat.le_pred_of_lt hi
  | none => exact Nat.le_refl _

theorem getElem?_concat_blanks {init rest : List (List Char)} {last tail line : List Char}
    (htail : AllBlank tail) (h : (init ++ [last ++ tail])[i]? = some line) :
    ∃ line' tail, AllBlank tail ∧ line = line' ++ tail ∧
      (init ++ last :: rest)[i]? = some line' := by
  rcases Nat.lt_or_ge i init.length with hi | hi
  · rw [List.getElem?_append_left hi] at h
    refine ⟨line, [], allBlank_nil, (List.append_nil line).symm, ?_⟩
    rwa [List.getElem?_append_left hi]
  · rw [List.getElem?_append_right hi] at h
    obtain ⟨hlt, rfl⟩ := List.getElem?_eq_some_iff.mp h
    obtain rfl : i = init.length := by
      rw [List.length_singleton] at hlt
      omega
    exact ⟨last, tail, htail, by simp, by simp⟩

/-- A newline and more text take no more than blanks off a line. -/
theorem lineChars_more (cs more : List Char) {line : List Char}
    (h : (lineChars cs)[i]? = some line) : ∃ line' tail, AllBlank tail ∧ line = line' ++ tail ∧
      (lineChars (cs ++ '\n' :: more))[i]? = some line' := by
  rcases List.eq_nil_or_concat' cs with rfl | ⟨front, c, rfl⟩
  · cases h
  · rw [List.append_assoc, List.singleton_append]
    by_cases hn : c = '\n'
    · subst hn
      obtain ⟨hi, -⟩ := List.getElem?_eq_some_iff.mp h
      rw [lineChars_append_newline, List.getElem?_append_left hi]
      exact ⟨line, [], allBlank_nil, (List.append_nil line).symm, h⟩
    · by_cases hr : c = '\r'
      · subst hr
        obtain ⟨init, last, hlines, hmore⟩ := lineChars_append_return front
        rw [hlines] at h
        rw [hmore]
        exact getElem?_concat_blanks (by decide) h
      · obtain ⟨init, last, hlines, hmore⟩ := lineChars_append_cons hn hr front
        rw [hlines, ← List.append_nil last] at h
        rw [hmore, lineChars_newline, goOn, List.append_nil]
        exact getElem?_concat_blanks allBlank_nil h

theorem binds_more (more : String) (hi : i < (Text.lines text).length) :
    Binds (text ++ "\n" ++ more) name i ↔ Binds text name i := by
  have hchars : (text ++ "\n" ++ more).toList = text.toList ++ '\n' :: more.toList := by simp
  rw [Text.lines, List.length_map] at hi
  obtain ⟨line, tail, htail, hline, hmore⟩ :=
    lineChars_more text.toList more.toList (List.getElem?_eq_getElem hi)
  have hbinds : ∀ (text' : String) (line' : List Char), (lineChars text'.toList)[i]? = some line' →
      (Binds text' name i ↔ name ∈ boundNames (String.ofList line')) := by
    intro text' line' hline'
    rw [Binds, Text.lines, List.getElem?_map, hline']
    simp [mem_boundNames]
  rw [hbinds _ _ (List.getElem?_eq_getElem hi), hline, boundNames_append_blanks htail]
  exact hbinds _ line (by rw [hchars, hmore])

/-- The first line that binds a name wins, and stays the first when the text goes on. -/
theorem first_binding_wins (text name : String) : FirstBound text name where
  found _ := lookup?_eq_some_iff
  absent := lookup?_eq_none_iff
  bound i h := by rw [FirstLines.lineFor, lookup?_eq_some_iff.mpr h, Option.getD_some]
  unbound h := by
    rw [FirstLines.lineFor, lookup?_eq_none_iff.mpr h]
    rfl
  row trace h := by
    rw [Grid.build, List.length_map, List.length_range]
    exact Nat.lt_of_le_pred (List.length_pos_iff.mpr h) (lineFor_le_lastLine text name)
  stays more i h := by
    obtain ⟨hbinds, hleast⟩ := lookup?_eq_some_iff.mp h
    obtain ⟨hi, -⟩ := binds_iff.mp hbinds
    refine lookup?_eq_some_iff.mpr ⟨(binds_more more hi).mpr hbinds, fun j hj => ?_⟩
    refine Nat.le_of_not_lt fun hlt => Nat.not_le_of_lt hlt (hleast ?_)
    exact (binds_more more (Nat.lt_trans hlt hi)).mp hj

example : (FirstLines.ofText "for i, a in b:\r\n  a = i\nb = a\n").lookup? "b" = some 2 := by
  decide +kernel

end TraceView.Proofs.Binding
