import TraceView.Grid.Cut

/-!
# How a line is laid out in cells

The offsets at which rows may be cut are those of the separators of any line, ascending. A line is
cut at its own among them: each cell but the last ends right before one, and the next begins right
after it. No cell has a separator in it, so the texts of the cells are the line split at every one.
-/
namespace TraceView.Proofs.Grid

open TraceView

theorem le_of_mem_separatorsFrom {start n : Nat} {cs : List Char}
    (h : n ∈ separatorsFrom start cs) : start ≤ n := by
  induction cs generalizing start with
  | nil => cases h
  | cons c cs ih =>
    rw [separatorsFrom] at h
    split at h
    · rcases List.mem_cons.mp h with rfl | h
      · exact Nat.le_refl _
      · exact Nat.le_of_succ_le (ih h)
    · exact Nat.le_of_succ_le (ih h)

theorem mem_separatorsFrom {start n : Nat} {cs : List Char} :
    start + n ∈ separatorsFrom start cs ↔ cs[n]? = some separator := by
  induction cs generalizing start n with
  | nil => simp [separatorsFrom]
  | cons c cs ih =>
    have hrest : start + n ∈ separatorsFrom (start + 1) cs ↔ ∃ m, n = m + 1 ∧
        cs[m]? = some separator := by
      constructor
      · intro h
        have hle := le_of_mem_separatorsFrom h
        refine ⟨n - 1, by omega, ih.mp (?_ : start + 1 + (n - 1) ∈ _)⟩
        rwa [show start + 1 + (n - 1) = start + n by omega]
      · rintro ⟨m, rfl, h⟩
        rw [Nat.add_comm m 1, ← Nat.add_assoc]
        exact ih.mpr h
    rw [separatorsFrom]
    split
    · next hc =>
      rw [List.mem_cons, hrest]
      cases n <;> simp [hc]
    · next hc =>
      rw [hrest]
      cases n <;> simp [hc]

theorem ascending_separatorsFrom (start : Nat) (cs : List Char) :
    (separatorsFrom start cs).Pairwise (· < ·) := by
  induction cs generalizing start with
  | nil => exact .nil
  | cons c cs ih =>
    rw [separatorsFrom]
    split
    · exact .cons (fun n hn => le_of_mem_separatorsFrom hn) (ih _)
    · exact ih _

theorem mem_mergeOffsets {n : Nat} (xs ys : List Nat) :
    n ∈ mergeOffsets xs ys ↔ n ∈ xs ∨ n ∈ ys := by
  fun_induction mergeOffsets xs ys with
  | case1 ys => simp
  | case2 xs h => simp
  | case3 x xs y ys hlt ih => grind
  | case4 x xs y ys hlt hgt ih => grind
  | case5 x xs y ys hlt hgt ih => grind

theorem ascending_mergeOffsets {xs ys : List Nat} (hx : xs.Pairwise (· < ·))
    (hy : ys.Pairwise (· < ·)) : (mergeOffsets xs ys).Pairwise (· < ·) := by
  fun_induction mergeOffsets xs ys with
  | case1 ys => exact hy
  | case2 xs h => exact hx
  | case3 x xs y ys hlt ih =>
    obtain ⟨hxs, hrest⟩ := List.pairwise_cons.mp hx
    refine .cons (fun n hn => ?_) (ih hrest hy)
    rcases (mem_mergeOffsets _ _).mp hn with hn | hn
    · exact hxs n hn
    · exact Nat.lt_of_lt_of_le hlt (by grind [List.pairwise_cons])
  | case4 x xs y ys hlt hgt ih =>
    obtain ⟨hys, hrest⟩ := List.pairwise_cons.mp hy
    refine .cons (fun n hn => ?_) (ih hx hrest)
    rcases (mem_mergeOffsets _ _).mp hn with hn | hn
    · exact Nat.lt_of_lt_of_le hgt (by grind [List.pairwise_cons])
    · exact hys n hn
  | case5 x xs y ys hlt hgt ih =>
    obtain rfl : x = y := by omega
    obtain ⟨hxs, hrestx⟩ := List.pairwise_cons.mp hx
    obtain ⟨hys, hresty⟩ := List.pairwise_cons.mp hy
    refine .cons (fun n hn => ?_) (ih hrestx hresty)
    rcases (mem_mergeOffsets _ _).mp hn with hn | hn
    · exact hxs n hn
    · exact hys n hn

/-- The offsets are exactly those at which some line has a separator. -/
theorem mem_separatorOffsets {n : Nat} (lines : List String) :
    n ∈ separatorOffsets lines ↔ ∃ line ∈ lines, line.toList[n]? = some separator := by
  have hfold : ∀ offsets : List Nat, n ∈ lines.foldl
      (fun offsets line => mergeOffsets offsets (separatorsFrom 0 line.toList)) offsets ↔
        n ∈ offsets ∨ ∃ line ∈ lines, line.toList[n]? = some separator := by
    induction lines with
    | nil => simp
    | cons line lines ih =>
      intro offsets
      have hline := @mem_separatorsFrom 0 n line.toList
      rw [Nat.zero_add] at hline
      rw [List.foldl_cons, ih, mem_mergeOffsets, hline]
      simp [or_assoc]
  rw [separatorOffsets, hfold]
  simp

theorem ascending_separatorOffsets (lines : List String) :
    (separatorOffsets lines).Pairwise (· < ·) := by
  have hfold : ∀ offsets : List Nat, offsets.Pairwise (· < ·) → (lines.foldl
      (fun offsets line => mergeOffsets offsets (separatorsFrom 0 line.toList))
        offsets).Pairwise (· < ·) := by
    induction lines with
    | nil => exact fun _ h => h
    | cons line lines ih =>
      exact fun offsets h => ih _ (ascending_mergeOffsets h (ascending_separatorsFrom 0 _))
  exact hfold [] .nil

/-- Cells that hold the rest of a line, from an offset and a column on. -/
inductive Laid (cs : List Char) (offsets : List Nat) : Nat → Nat → List Cell → Prop where
  | last {start column span} (hs : 1 ≤ span) (hc : column + span = offsets.length + 1)
      (hfree : separator ∉ cs.drop start) :
      Laid cs offsets start column [⟨span, column, String.ofList (cs.drop start)⟩]
  | cut {start column span offset cells} (hs : 1 ≤ span)
      (ho : offsets[column + span - 1]? = some offset) (hsep : cs[offset]? = some separator)
      (hle : start ≤ offset) (hfree : separator ∉ (cs.drop start).take (offset - start))
      (rest : Laid cs offsets (offset + 1) (column + span) cells) :
      Laid cs offsets start column
        (⟨span, column, String.ofList ((cs.drop start).take (offset - start))⟩ :: cells)

/-- A walk over the offsets met so far: the open cell reaches up to the last of them, and none of
them within it is one of the line. -/
structure Walked (cs : List Char) (met : List Nat) (w : CellWalk) : Prop where
  reach : w.column + w.span = met.length + 1
  span : 1 ≤ w.span
  passed : ∀ n ∈ met, w.start ≤ n → cs[n]? ≠ some separator

theorem walked_begin (cs : List Char) : Walked cs [] .begin := by
  refine ⟨rfl, Nat.le_refl _, ?_⟩
  intro n hn
  cases hn

theorem Walked.widen {cs : List Char} {met : List Nat} {w : CellWalk} {offset : Nat}
    (hw : Walked cs met w) (h : cs[offset]? ≠ some separator) :
    Walked cs (met ++ [offset]) { w with span := w.span + 1 } := by
  refine ⟨?_, Nat.le_add_left .., ?_⟩
  · rw [List.length_append, List.length_singleton, ← Nat.add_assoc, hw.reach]
  · intro n hn hle
    rcases List.mem_append.mp hn with hn | hn
    · exact hw.passed n hn hle
    · cases List.mem_singleton.mp hn
      exact h

theorem Walked.cut {cs : List Char} {met : List Nat} {w : CellWalk} {offset : Nat}
    (hw : Walked cs met w) (hlt : ∀ n ∈ met, n < offset) :
    Walked cs (met ++ [offset]) ⟨offset + 1, w.column + w.span, 1⟩ := by
  refine ⟨?_, Nat.le_refl _, ?_⟩
  · rw [List.length_append, List.length_singleton, hw.reach]
  · intro n hn hle
    rcases List.mem_append.mp hn with hn | hn
    · have hn' := hlt n hn
      change offset + 1 ≤ n at hle
      omega
    · cases List.mem_singleton.mp hn
      exact absurd hle (Nat.not_succ_le_self _)

theorem laid_cellsFrom {cs : List Char} {rest : List Nat} : ∀ {met : List Nat} {w : CellWalk},
    Walked cs met w → (met ++ rest).Pairwise (· < ·) →
    (∀ n, cs[n]? = some separator → n ∈ met ++ rest) → (∀ n ∈ rest, w.start ≤ n) →
    Laid cs (met ++ rest) w.start w.column (cellsFrom cs w rest) := by
  induction rest with
  | nil =>
    intro met w hw hasc hown hstart
    rw [List.append_nil] at hown ⊢
    refine .last hw.span hw.reach fun hm => ?_
    obtain ⟨i, hi⟩ := List.mem_iff_getElem?.mp hm
    rw [List.getElem?_drop] at hi
    exact hw.passed _ (hown _ hi) (Nat.le_add_right ..) hi
  | cons offset rest ih =>
    intro met w hw hasc hown hstart
    have hsplit : met ++ offset :: rest = (met ++ [offset]) ++ rest := by simp
    obtain ⟨-, htail, hmet⟩ := List.pairwise_append.mp hasc
    have hafter := (List.pairwise_cons.mp htail).1
    have hbefore : ∀ n ∈ met, n < offset := fun n hn => hmet n hn offset List.mem_cons_self
    rw [cellsFrom]
    split
    · next hsep =>
      have hindex : w.column + w.span - 1 = met.length := by
        have hreach := hw.reach
        omega
      refine .cut hw.span ?_ hsep (hstart offset List.mem_cons_self) (fun hm => ?_) ?_
      · rw [hindex, List.getElem?_append_right (Nat.le_refl _), Nat.sub_self]
        rfl
      · -- a separator before the offset is one of the line, and has been met
        obtain ⟨i, hi⟩ := List.mem_iff_getElem?.mp hm
        rw [List.getElem?_take] at hi
        split at hi
        · next hlt =>
          rw [List.getElem?_drop] at hi
          rcases List.mem_append.mp (hown _ hi) with hn | hn
          · exact hw.passed _ hn (Nat.le_add_right ..) hi
          · rcases List.mem_cons.mp hn with he | hn
            · omega
            · have hgt := hafter _ hn
              omega
        · cases hi
      · rw [hsplit] at hasc hown ⊢
        exact ih (hw.cut hbefore) hasc hown hafter
    · next hsep =>
      rw [hsplit] at hasc hown ⊢
      exact ih (hw.widen hsep) hasc hown fun n hn => hstart n (List.mem_cons_of_mem _ hn)

/-- A line whose separators are among ascending offsets is laid out in the cells it is cut into. -/
theorem laid_cut {line : String} {offsets : List Nat} (hasc : offsets.Pairwise (· < ·))
    (hown : ∀ n, line.toList[n]? = some separator → n ∈ offsets) :
    Laid line.toList offsets 0 0 (Row.cut line offsets).cells :=
  laid_cellsFrom (walked_begin _) hasc hown fun _ _ => Nat.zero_le _

/-- A line up to one of its separators, the separator, and the line after it. -/
theorem drop_eq_take_cons {cs : List Char} {start offset : Nat} (hle : start ≤ offset)
    (h : cs[offset]? = some separator) :
    cs.drop start = (cs.drop start).take (offset - start) ++ separator :: cs.drop (offset + 1) := by
  obtain ⟨hlt, hget⟩ := List.getElem?_eq_some_iff.mp h
  have hrest : (cs.drop start).drop (offset - start) = separator :: cs.drop (offset + 1) := by
    rw [List.drop_drop, Nat.add_sub_cancel' hle, List.drop_eq_getElem_cons hlt, hget]
  rw [← hrest, List.take_append_drop]

/-- The texts of the cells are the line split at its separators. -/
theorem Laid.texts {cs : List Char} {offsets : List Nat} {start column : Nat} {cells : List Cell}
    (h : Laid cs offsets start column cells) :
    cells.map (·.text.toList) = (cs.drop start).splitOn separator := by
  induction h with
  | last hs hc hfree =>
    rw [List.map_singleton, String.toList_ofList, List.splitOn_eq_singleton hfree]
  | @cut start column span offset cells hs ho hsep hle hfree rest ih =>
    rw [List.map_cons, String.toList_ofList, ih,
      ← List.splitOn_append_cons_self_of_not_mem hfree, ← drop_eq_take_cons hle hsep]

end TraceView.Proofs.Grid
