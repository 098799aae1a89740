import TraceView.Json.Reader
import TraceView.Proofs.Html.ScriptData
import TraceView.Proofs.Text.Utf8

/-!
# Guarded data as JSON

A reader of JSON meets a `<` with good only inside a string, and there a slash stands for itself
with and without a backslash. So what guarding inserts is never seen: a guarded text is read, or
refused, as the text itself is.
-/
namespace TraceView.Proofs.Json

open TraceView TraceView.Json TraceView.Text.Utf8 TraceView.Proofs.Text TraceView.Proofs.Html
open TraceView.Html (guardScriptChars guardScript isScriptWord)

/-- The rest of a word is due in which no `<` stands. -/
def isWordy : Mode → Bool
  | .literal rest _ => !rest.contains 0x3C
  | _ => true

variable {s t : State} {stack : List Frame} {b : UInt8}

theorem ok_of_bind {α β : Type} {x : Except Flaw α} {f : α → Except Flaw β} {r : β}
    (h : x >>= f = .ok r) : ∃ a, x = .ok a ∧ f a = .ok r := by
  cases x with
  | error e => cases h
  | ok a => exact ⟨a, rfl, h⟩

theorem ok_of_map {α β : Type} {x : Except Flaw α} {f : α → β} {r : β} (h : x.map f = .ok r) :
    ∃ a, x = .ok a ∧ f a = r := by
  cases x with
  | error e => cases h
  | ok a => exact ⟨a, rfl, Except.ok.inj h⟩

theorem wordy_deliver (stack : List Frame) (v : Json) : isWordy (deliver stack v).mode = true := by
  unfold deliver
  split <;> rfl

theorem wordy_deliverString (stack : List Frame) (isKey : Bool) (text : String) :
    isWordy (deliverString stack isKey text).mode = true := by
  unfold deliverString
  split
  · rfl
  · exact wordy_deliver _ _

theorem wordy_closeContainer (h : closeContainer stack = .ok t) : isWordy t.mode = true := by
  unfold closeContainer at h
  split at h
  · cases h
  · cases h
    exact wordy_deliver _ _
  · cases h
    rfl
  · cases h
    exact wordy_deliver _ _

theorem wordy_openContainer {frame : Frame} {mode : Mode} (hm : isWordy mode = true)
    (h : openContainer stack frame mode = .ok t) : isWordy t.mode = true := by
  unfold openContainer at h
  split at h
  · cases h
    exact hm
  · cases h

theorem wordy_startValue (h : startValue stack b = .ok t) : isWordy t.mode = true := by
  unfold startValue at h
  iterate 2
    split at h
    · exact wordy_openContainer rfl h
  iterate 5
    split at h
    · cases h
      rfl
  split at h
  · cases h
    rfl
  · cases h

theorem wordy_stepPlain (hs : isWordy s.mode = true) (h : s.stepPlain b = .ok t) :
    isWordy t.mode = true := by
  obtain ⟨stack, mode⟩ := s
  unfold State.stepPlain at h
  split at h
  · cases h
    exact hs
  cases mode with
  | value => exact wordy_startValue h
  | firstItem =>
    dsimp only at h
    split at h
    · exact wordy_closeContainer h
    · exact wordy_startValue h
  | key | colon =>
    dsimp only at h
    split at h <;> cases h
    rfl
  | firstKey =>
    dsimp only at h
    split at h
    · exact wordy_closeContainer h
    · split at h <;> cases h
      rfl
  | afterItem | afterField =>
    dsimp only at h
    split at h
    · cases h
      rfl
    · split at h
      · exact wordy_closeContainer h
      · cases h
  | literal | string | numeral | done => cases h

theorem wordy_endNumeral (hs : isWordy s.mode = true) (h : s.endNumeral b = .ok t) :
    isWordy t.mode = true := by
  unfold State.endNumeral at h
  split at h
  · obtain ⟨next, -, h⟩ := ok_of_bind h
    cases next with
    | some draft =>
      cases h
      exact hs
    | none =>
      obtain ⟨v, -, h⟩ := ok_of_bind h
      cases h
      exact wordy_deliver _ _
  · cases h
    exact hs

theorem wordy_take (hs : isWordy s.mode = true) (h : s.take b = .ok t) :
    isWordy t.mode = true := by
  unfold State.take at h
  split at h
  · cases h
  · next c rest v hm =>
    rw [hm] at hs
    split at h
    · cases h
    · split at h
      · cases h
        exact wordy_deliver _ _
      · cases h
        simp only [isWordy, List.contains_cons, Bool.not_or, Bool.and_eq_true] at hs ⊢
        exact hs.2
  · split at h
    · split at h
      · cases h
        exact wordy_deliverString ..
      · cases h
    · obtain ⟨x, -, rfl⟩ := ok_of_map h
      rfl
  · obtain ⟨x, -, rfl⟩ := ok_of_map h
    rfl
  · obtain ⟨next, -, h⟩ := ok_of_bind h
    cases next with
    | some draft =>
      cases h
      rfl
    | none => cases h
  · exact wordy_stepPlain hs h

theorem wordy_step (hs : isWordy s.mode = true) (h : s.step b = .ok t) :
    isWordy t.mode = true := by
  obtain ⟨u, hu, ht⟩ := ok_of_bind h
  exact wordy_take (wordy_endNumeral hs hu) ht

theorem wordy_run {bs : List UInt8} (hs : isWordy s.mode = true) (h : run s bs = .ok t) :
    isWordy t.mode = true := by
  induction bs generalizing s with
  | nil =>
    cases h
    exact hs
  | cons b bs ih =>
    obtain ⟨u, hu, ht⟩ := ok_of_bind h
    exact ih (wordy_step hs hu) ht

theorem push_less (draft : NumeralDraft) :
    draft.push 0x3C = .ok none ∨ draft.push 0x3C = .error .malformed := by
  have hdigit : byteDigit? 0x3C = none := by decide
  unfold NumeralDraft.push
  rw [hdigit]
  cases draft.part <;> cases draft.complete <;> simp

/-- Outside strings no `<` is taken. -/
inductive MeetsLess : State → Prop where
  | refused {s : State} {e : Flaw} (h : s.step 0x3C = .error e) : MeetsLess s
  | plain {stack isKey bytes} : MeetsLess ⟨stack, .string isKey bytes .plain⟩
  | unit {stack isKey bytes lead read} (h : read.length < 3) :
      MeetsLess ⟨stack, .string isKey bytes (.unit lead read)⟩

theorem take_less_deliver (stack : List Frame) (v : Json) :
    (deliver stack v).take 0x3C = .error .malformed := by
  unfold deliver
  split <;> rfl

theorem unitValue?_of_mem {read : List UInt8} (h : ∃ b ∈ read, byteHex? b = none) :
    unitValue? read = none := by
  obtain ⟨b, hb, hnone⟩ := h
  obtain ⟨before, after, he⟩ := List.append_of_mem (List.mem_reverse.mpr hb)
  rw [unitValue?, he, List.foldlM_append]
  cases before.foldlM (fun n b => (byteHex? b).map (n * 16 + ·)) 0 with
  | none => rfl
  | some n => simp [hnone]

theorem meetsLess (hs : isWordy s.mode = true) : MeetsLess s := by
  obtain ⟨stack, mode⟩ := s
  cases mode with
  | string isKey bytes part =>
    cases part with
    | plain => exact .plain
    | unit lead read =>
      by_cases h : read.length < 3
      · exact .unit h
      · have hvalue : unitValue? (0x3C :: read) = none :=
          unitValue?_of_mem ⟨0x3C, List.mem_cons_self, by decide⟩
        refine .refused (e := .malformed) ?_
        change (pushString bytes (.unit lead read) 0x3C).map _ = _
        simp only [pushString, if_neg h, hvalue]
        rfl
    | escape | secondEscape | secondUnit => exact .refused rfl
  | literal rest v =>
    cases rest with
    | nil => exact .refused rfl
    | cons c rest =>
      have hc : (0x3C : UInt8) ≠ c := by
        rintro rfl
        simp [isWordy] at hs
      refine .refused (e := .malformed) ?_
      exact if_pos hc
  | numeral draft =>
    rcases push_less draft with h | h
    · cases hv : draft.value with
      | error e =>
        refine .refused (e := e) ?_
        simp only [State.step, State.endNumeral, h, hv]
        rfl
      | ok v =>
        refine .refused (e := .malformed) ?_
        simp only [State.step, State.endNumeral, h, hv]
        exact take_less_deliver stack v
    · refine .refused (e := .malformed) ?_
      simp only [State.step, State.endNumeral, h]
      rfl
  | value | firstItem | firstKey | key | colon | afterItem | afterField | done =>
    exact .refused rfl

theorem run_cons (s : State) (b : UInt8) (bs : List UInt8) :
    run s (b :: bs) = s.step b >>= fun t => run t bs := rfl

/-- An escape that is no number is refused at its fourth digit. -/
theorem run_spoiled {isKey : Bool} {bytes : List UInt8} {lead : Option Nat}
    {bs read : List UInt8} (h : ∃ b ∈ read, byteHex? b = none)
    (hlong : 4 ≤ read.length + bs.length) (hroom : read.length ≤ 3) :
    run ⟨stack, .string isKey bytes (.unit lead read)⟩ bs = .error .malformed := by
  induction bs generalizing read with
  | nil => exact absurd hlong (by simp; omega)
  | cons b bs ih =>
    obtain ⟨c, hc, hnone⟩ := h
    have hspoiled : ∃ c ∈ b :: read, byteHex? c = none := ⟨c, List.mem_cons_of_mem _ hc, hnone⟩
    rw [List.length_cons] at hlong
    by_cases hless : read.length < 3
    · have hstep : State.step ⟨stack, .string isKey bytes (.unit lead read)⟩ b =
          .ok ⟨stack, .string isKey bytes (.unit lead (b :: read))⟩ := by
        change (pushString bytes (.unit lead read) b).map _ = _
        simp only [pushString, if_pos hless]
        rfl
      rw [run_cons, hstep]
      exact ih hspoiled (by rw [List.length_cons]; omega) hless
    · have hstep : State.step ⟨stack, .string isKey bytes (.unit lead read)⟩ b =
          .error .malformed := by
        change (pushString bytes (.unit lead read) b).map _ = _
        simp only [pushString, if_neg hless, unitValue?_of_mem hspoiled]
        rfl
      rw [run_cons, hstep]
      rfl

/-- A backslash before a slash makes no difference behind a `<`. -/
theorem run_guarded (hs : isWordy s.mode = true) {bs : List UInt8} (hbs : 2 ≤ bs.length) :
    run s (0x3C :: 0x5C :: 0x2F :: bs) = run s (0x3C :: 0x2F :: bs) := by
  cases meetsLess hs with
  | refused h => rw [run_cons, run_cons, h]; rfl
  | plain => rfl
  | @unit stack isKey bytes lead read h =>
    have hstep : State.step ⟨stack, .string isKey bytes (.unit lead read)⟩ 0x3C =
        .ok ⟨stack, .string isKey bytes (.unit lead (0x3C :: read))⟩ := by
      change (pushString bytes (.unit lead read) 0x3C).map _ = _
      simp only [pushString, if_pos h]
      rfl
    have hspoiled : ∃ c ∈ 0x3C :: read, byteHex? c = none := ⟨0x3C, List.mem_cons_self, by decide⟩
    rw [run_cons, run_cons, hstep]
    refine (run_spoiled hspoiled ?_ h).trans (run_spoiled hspoiled ?_ h).symm <;>
      simp only [List.length_cons] <;> omega

theorem length_of_isScriptWord {cs : List Char} (h : isScriptWord cs = true) : 2 ≤ cs.length := by
  obtain ⟨word, after, hword, rfl⟩ := (isScriptWord_iff cs).mp h
  have hlength : word.length = 6 := hword.length_eq
  rw [List.length_append, hlength]
  omega

theorem run_congr (hs : isWordy s.mode = true) (front : List UInt8) {bs cs : List UInt8}
    (h : ∀ t : State, isWordy t.mode = true → run t bs = run t cs) :
    run s (front ++ bs) = run s (front ++ cs) := by
  rw [run_append, run_append]
  cases hrun : run s front with
  | error e => rfl
  | ok t => exact h t (wordy_run hs hrun)

theorem run_guardScriptChars (cs : List Char) :
    ∀ s : State, isWordy s.mode = true →
      run s (encode (guardScriptChars cs)) = run s (encode cs) := by
  fun_induction guardScriptChars cs with
  | case1 cs hword ih =>
    intro s hs
    have hlong : 2 ≤ (encode (guardScriptChars cs)).length :=
      Nat.le_trans (length_of_isScriptWord ((isScriptWord_guard cs).trans hword))
        (length_le_encode _)
    exact (run_guarded hs hlong).trans (run_congr hs [0x3C, 0x2F] ih)
  | case2 cs hword ih => exact fun s hs => run_congr hs [0x3C, 0x2F] ih
  | case3 c cs hne ih => exact fun s hs => run_congr hs (String.utf8EncodeChar c) ih
  | case4 => exact fun _ _ => rfl

/-- Guarding does not change what a text is read as, nor whether it can be read. -/
theorem read_guardScript (text : String) : Json.read (guardScript text) = Json.read text := by
  have h : run .initial (encode (guardScriptChars text.toList)) =
      run .initial (encode text.toList) :=
    run_guardScriptChars text.toList .initial rfl
  rw [Json.read, Json.read, toList_toUTF8, toList_toUTF8, guardScript, String.toList_ofList,
    readBytes, h, readBytes]

end TraceView.Proofs.Json
