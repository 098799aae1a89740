import TraceView.Json.Reader
import TraceView.Json.Writer
import TraceView.Proofs.Text.Numeral

/-!
# Strings, numbers and words as they are written

The reader goes through the bytes of a written scalar and holds the scalar behind the last of
them; only a numeral still waits for the byte that ends it. `Passes` also says of the states on the
way that they have a property, since a body that can be no message is given up early.
-/

namespace TraceView.Proofs.Json

open TraceView TraceView.Json TraceView.Text.Utf8 TraceView.Proofs.Text

/-- The bytes take the reader from one state to another, and whatever it is in on the way, also
once a numeral is ended, has the property. -/
inductive Passes (P : State → Prop) : State → List UInt8 → State → Prop
  | nil (s : State) : Passes P s [] s
  | cons {s u t r : State} {b : UInt8} {bs : List UInt8} :
    s.endNumeral b = .ok u → P u → u.take b = .ok t → P t → Passes P t bs r →
      Passes P s (b :: bs) r

variable {P : State → Prop} {s t r : State} {bs cs : List UInt8} {b : UInt8}
  {stack : List Frame} {mode : Mode}

theorem Passes.append (h : Passes P s bs t) (h' : Passes P t cs r) : Passes P s (bs ++ cs) r := by
  induction h with
  | nil => exact h'
  | cons hu hpu ht hpt _ ih => exact .cons hu hpu ht hpt (ih h')

theorem Passes.single (hu : s.endNumeral b = .ok t) (hp : P t) (hr : t.take b = .ok r)
    (hpr : P r) : Passes P s [b] r :=
  .cons hu hp hr hpr (.nil r)

/-- Modes of a value that is not yet read to its end. -/
def isUnderWay : Mode → Bool
  | .done _ => false
  | _ => true

/-- Where a value may begin. -/
def begins (mode : Mode) : Prop :=
  mode = .value ∨ mode = .firstItem

/-- A value is read, but for the byte that ends a numeral. -/
inductive Held (stack : List Frame) (v : Json) : State → Prop
  | delivered : Held stack v (deliver stack v)
  | pending {draft : NumeralDraft} : draft.part = .zero ∨ draft.part = .whole →
      draft.value = .ok v → Held stack v ⟨stack, .numeral draft⟩

/-- Bytes that follow a value. -/
def isFollower (b : UInt8) : Bool :=
  b = 0x2C || b = 0x5D || b = 0x7D

theorem Held.endNumeral {v : Json} (h : Held stack v s) (hb : isFollower b = true) :
    s.endNumeral b = .ok (deliver stack v) := by
  cases h with
  | delivered =>
    unfold deliver
    split <;> rfl
  | @pending draft hpart hvalue =>
    have hpush : draft.push b = .ok none := by
      have hb : b = 0x2C ∨ b = 0x5D ∨ b = 0x7D := by simpa [isFollower, or_assoc] using hb
      rcases hpart with hp | hp <;> rcases hb with rfl | rfl | rfl <;>
        simp [NumeralDraft.push, NumeralDraft.complete, byteDigit?, hp]
    rw [State.endNumeral]
    simp only [hpush, hvalue]
    rfl

/-- What the reader makes of a written value, wherever the value stands. -/
def Reads (P : State → Prop) (stack : List Frame) (v : Json) : Prop :=
  ∀ mode, begins mode → ∃ t, Passes P ⟨stack, mode⟩ (encode (chars v)) t ∧ Held stack v t

theorem take_begin (hm : begins mode) (hblank : isBlankByte b = false) (hclose : b ≠ 0x5D) :
    State.take ⟨stack, mode⟩ b = startValue stack b := by
  rcases hm with rfl | rfl
  · simp [State.take, State.stepPlain, hblank]
  · simp [State.take, State.stepPlain, hblank, hclose]

theorem endNumeral_begin (hm : begins mode) :
    State.endNumeral ⟨stack, mode⟩ b = .ok ⟨stack, mode⟩ := by
  rcases hm with rfl | rfl <;> rfl

/-- The first byte of a value. -/
theorem passes_begin (hm : begins mode) (hp : P ⟨stack, mode⟩) (hblank : isBlankByte b = false)
    (hclose : b ≠ 0x5D) (ht : startValue stack b = .ok t) (hpt : P t) :
    Passes P ⟨stack, mode⟩ [b] t :=
  .single (endNumeral_begin hm) hp (by rw [take_begin hm hblank hclose, ht]) hpt

theorem passes_literal {v : Json} {word : List UInt8} (hw : word ≠ [])
    (hP : ∀ rest, P ⟨stack, .literal rest v⟩) (hd : P (deliver stack v)) :
    Passes P ⟨stack, .literal word v⟩ word (deliver stack v) := by
  induction word with
  | nil => exact (hw rfl).elim
  | cons c rest ih =>
    cases rest with
    | nil => exact .single rfl (hP _) (by simp [State.take]) hd
    | cons c' rest =>
      exact .cons rfl (hP _) (by simp [State.take]) (hP _) (ih (List.cons_ne_nil _ _))

section Strings

variable {isKey : Bool} {bytes bytes' : List UInt8} {part part' : StringPart}

theorem take_quote {text : String} (h : Text.Utf8.strict? bytes.reverse = some text) :
    State.take ⟨stack, .string isKey bytes .plain⟩ 0x22 = .ok (deliverString stack isKey text) := by
  simp [State.take, h]

theorem take_string (hb : part = .plain → b ≠ 0x22) :
    State.take ⟨stack, .string isKey bytes part⟩ b =
      (pushString bytes part b).map fun p => ⟨stack, .string isKey p.1 p.2⟩ := by
  cases part with
  | plain => simp [State.take, hb rfl]
  | _ => rfl

/-- Bytes that stand for themselves in a string. -/
def isPlainByte (b : UInt8) : Bool :=
  !(b < 0x20) && b ≠ 0x22 && b ≠ 0x5C

theorem isPlainByte_of_toNat (h : 0x20 ≤ b.toNat) (hquote : b.toNat ≠ 0x22)
    (hslash : b.toNat ≠ 0x5C) : isPlainByte b = true := by
  have h' : ¬b < 0x20 := Nat.not_lt.mpr h
  have hquote' : b ≠ 0x22 := fun e => hquote (congrArg UInt8.toNat e)
  have hslash' : b ≠ 0x5C := fun e => hslash (congrArg UInt8.toNat e)
  simp [isPlainByte, h', hquote', hslash']

/-- A character that is not escaped has only such bytes. -/
theorem isPlainByte_encodeChar {c : Char} (hc : 0x20 ≤ c.toNat) (hquote : c ≠ '"')
    (hslash : c ≠ '\\') : ∀ b ∈ String.utf8EncodeChar c, isPlainByte b = true := by
  intro b hb
  by_cases hascii : c.toNat < 0x80
  · rw [encodeChar_ascii hascii, List.mem_singleton] at hb
    have hb : b.toNat = c.toNat := by
      rw [hb, UInt8.toNat_ofNat', Nat.mod_eq_of_lt (by omega)]
    have hne : ∀ d : Char, c ≠ d → c.toNat ≠ d.toNat := fun d h e =>
      h (Char.toNat_inj.mp e)
    exact isPlainByte_of_toNat (by omega) (hb ▸ hne _ hquote) (hb ▸ hne _ hslash)
  · have := le_of_mem_encodeChar (Nat.le_of_not_lt hascii) hb
    exact isPlainByte_of_toNat (by omega) (by omega) (by omega)

theorem pushString_plain (h : isPlainByte b = true) :
    pushString bytes .plain b = .ok (b :: bytes, .plain) := by
  simp only [isPlainByte, Bool.and_eq_true, Bool.not_eq_true', decide_eq_false_iff_not,
    decide_eq_true_eq] at h
  rw [pushString, if_neg h.2, if_neg h.1.1]

/-- The last two of the four digits of a control. -/
def controlDigits (n : Nat) : UInt8 × UInt8 :=
  (UInt8.ofNat (Nat.digitChar (n / 16)).toNat, UInt8.ofNat (Nat.digitChar (n % 16)).toNat)

theorem controlDigits_value : ∀ n < 0x20,
    encode (Text.hexPadded 4 n) = [0x30, 0x30, (controlDigits n).1, (controlDigits n).2] ∧
      unitValue? [(controlDigits n).2, (controlDigits n).1, 0x30, 0x30] = some n := by
  decide

variable (hP : ∀ bytes part, P ⟨stack, .string isKey bytes part⟩)
include hP

theorem passes_pushed (hb : part = .plain → b ≠ 0x22)
    (h : pushString bytes part b = .ok (bytes', part'))
    (hrest : Passes P ⟨stack, .string isKey bytes' part'⟩ bs t) :
    Passes P ⟨stack, .string isKey bytes part⟩ (b :: bs) t :=
  .cons rfl (hP _ _) (by rw [take_string hb, h]; rfl) (hP _ _) hrest

theorem passes_plain (h : ∀ b ∈ bs, isPlainByte b = true) :
    Passes P ⟨stack, .string isKey bytes .plain⟩ bs
      ⟨stack, .string isKey (bs.reverse ++ bytes) .plain⟩ := by
  induction bs generalizing bytes with
  | nil => exact .nil _
  | cons b bs ih =>
    have hb := h b List.mem_cons_self
    have hquote : b ≠ 0x22 := by
      rintro rfl
      cases hb
    rw [List.reverse_cons, List.append_assoc]
    exact passes_pushed hP (fun _ => hquote) (pushString_plain hb)
      (ih fun b hb => h b (List.mem_cons_of_mem _ hb))

/-- An escape of one letter. -/
theorem passes_short {e : UInt8} (he : e ≠ 0x75) (h : shortEscape? e = some b) :
    Passes P ⟨stack, .string isKey bytes .plain⟩ [0x5C, e]
      ⟨stack, .string isKey (b :: bytes) .plain⟩ := by
  refine passes_pushed hP (fun _ => by decide) rfl ?_
  refine passes_pushed hP (fun h => by cases h) ?_ (.nil _)
  rw [pushString, if_neg he, h]

/-- A control as four digits. -/
theorem passes_unit {n : Nat} (hn : n < 0x20) :
    Passes P ⟨stack, .string isKey bytes .plain⟩
      (0x5C :: 0x75 :: encode (Text.hexPadded 4 n))
      ⟨stack, .string isKey (pushChar (Char.ofNat n) bytes) .plain⟩ := by
  obtain ⟨hbytes, hvalue⟩ := controlDigits_value n hn
  rw [hbytes]
  have hclose : closeUnit none n bytes = .ok (pushChar (Char.ofNat n) bytes, .plain) := by
    have htrail : isTrail n = false := by simp [isTrail]; omega
    have hlead : isLead n = false := by simp [isLead]; omega
    rw [closeUnit, htrail, hlead]
    rfl
  refine passes_pushed hP (fun _ => by decide) rfl ?_
  refine passes_pushed hP (fun h => by cases h) rfl ?_
  refine passes_pushed hP (fun h => by cases h) rfl ?_
  refine passes_pushed hP (fun h => by cases h) rfl ?_
  refine passes_pushed hP (fun h => by cases h) rfl ?_
  refine passes_pushed hP (fun h => by cases h) ?_ (.nil _)
  rw [pushString, if_neg (by simp), hvalue]
  exact hclose

theorem passes_char (c : Char) :
    Passes P ⟨stack, .string isKey bytes .plain⟩ (encode (escapeChar c))
      ⟨stack, .string isKey (pushChar c bytes) .plain⟩ := by
  unfold escapeChar
  split
  iterate 7 exact passes_short hP (by decide) rfl
  · next hquote hslash _ _ _ _ _ =>
    split
    · next hc =>
      have hunit : Passes P ⟨stack, .string isKey bytes .plain⟩ _ _ := passes_unit hP hc
      rw [Char.ofNat_toNat] at hunit
      exact hunit
    · next hc =>
      rw [encode_cons, show encode [] = [] from rfl, List.append_nil]
      exact passes_plain hP (isPlainByte_encodeChar (Nat.le_of_not_lt hc) hquote hslash)

theorem passes_chars (text : List Char) :
    Passes P ⟨stack, .string isKey bytes .plain⟩ (encode (text.flatMap escapeChar))
      ⟨stack, .string isKey ((encode text).reverse ++ bytes) .plain⟩ := by
  induction text generalizing bytes with
  | nil => exact .nil _
  | cons c text ih =>
    rw [List.flatMap_cons, encode_append, encode_cons, List.reverse_append, List.append_assoc]
    exact (passes_char hP c).append ih

/-- From the opening quote to the closing one. -/
theorem passes_string (text : String)  (hd : P (deliverString stack isKey text)) :
    Passes P ⟨stack, .string isKey [] .plain⟩
      (encode (text.toList.flatMap escapeChar ++ ['"'])) (deliverString stack isKey text) := by
  rw [encode_append]
  refine (passes_chars hP text.toList).append (.single rfl (hP _ _) (take_quote ?_) hd)
  rw [List.append_nil, List.reverse_reverse, strict?_encode, String.ofList_toList]

end Strings

section Numbers

variable {ds : List Nat} {n : Nat}

/-- A numeral of which some digits are read, given in reverse. -/
def draftOf (negative : Bool) (part : NumeralPart) (whole : List Nat) : NumeralDraft :=
  ⟨negative, part, whole, [], false, 0⟩

def digitByte (d : Nat) : UInt8 := UInt8.ofNat (0x30 + d)

theorem byteDigit?_digitByte : ∀ d < 10, byteDigit? (digitByte d) = some d := by decide

theorem encode_digitChars (h : ∀ d ∈ ds, d < 10) :
    encode (ds.map Nat.digitChar) = ds.map digitByte := by
  induction ds with
  | nil => rfl
  | cons d ds ih =>
    have hd := toNat_digitChar d (h d List.mem_cons_self)
    have hlt := h d List.mem_cons_self
    rw [List.map_cons, encode_cons, encodeChar_ascii (by omega), hd,
      ih fun d hd => h d (List.mem_cons_of_mem _ hd)]
    rfl

theorem push_whole {negative : Bool} {whole : List Nat} {d : Nat} (hd : d < 10)
    (hw : whole ≠ []) :
    (draftOf negative .whole whole).push (digitByte d)
      = .ok (some (draftOf negative .whole (d :: whole))) := by
  rw [NumeralDraft.push]
  simp [byteDigit?_digitByte d hd, draftOf, NumeralDraft.pushWhole, hw]

theorem numeral_goesOn {draft draft' : NumeralDraft} (h : draft.push b = .ok (some draft')) :
    State.endNumeral ⟨stack, .numeral draft⟩ b = .ok ⟨stack, .numeral draft⟩ ∧
      State.take ⟨stack, .numeral draft⟩ b = .ok ⟨stack, .numeral draft'⟩ := by
  constructor
  · rw [State.endNumeral]
    simp only [h]
    rfl
  · rw [State.take]
    simp only [h]
    rfl

theorem passes_digits (hP : ∀ draft, P ⟨stack, .numeral draft⟩) (negative : Bool)
    {whole : List Nat} (hw : whole ≠ []) (h : ∀ d ∈ ds, d < 10) :
    Passes P ⟨stack, .numeral (draftOf negative .whole whole)⟩ (ds.map digitByte)
      ⟨stack, .numeral (draftOf negative .whole (ds.reverse ++ whole))⟩ := by
  induction ds generalizing whole with
  | nil => exact .nil _
  | cons d ds ih =>
    have hpush : (draftOf negative .whole whole).push (digitByte d) = _ :=
      push_whole (h d List.mem_cons_self) hw
    obtain ⟨hend, htake⟩ : State.endNumeral ⟨stack, _⟩ _ = _ ∧ _ := numeral_goesOn hpush
    rw [List.reverse_cons, List.append_assoc]
    exact .cons hend (hP _) htake (hP _)
      (ih (List.cons_ne_nil d whole) fun d hd => h d (List.mem_cons_of_mem _ hd))

/-- All digits of a number, from a state that the first of them leaves as it leaves a sign. -/
theorem passes_spelled (hP : ∀ draft, P ⟨stack, .numeral draft⟩) (negative : Bool)
    (hds : Spells ds n) (hs : P s)
    (hfirst : ∀ d < 10, s.endNumeral (digitByte d) = .ok s ∧ s.take (digitByte d)
      = .ok ⟨stack, .numeral ((draftOf negative .sign []).pushWhole d)⟩) :
    ∃ part, (part = .zero ∨ part = .whole) ∧
      Passes P s (ds.map digitByte) ⟨stack, .numeral (draftOf negative part ds.reverse)⟩ := by
  rcases hds.lead with rfl | ⟨d, rest, rfl, hd⟩
  · obtain ⟨hend, htake⟩ := hfirst 0 (by decide)
    exact ⟨.zero, .inl rfl, .single hend hs htake (hP _)⟩
  · obtain ⟨hend, htake⟩ := hfirst d (hds.digit d List.mem_cons_self)
    have hpush : (draftOf negative .sign []).pushWhole d = draftOf negative .whole [d] := by
      simp [NumeralDraft.pushWhole, draftOf, hd]
    rw [hpush] at htake
    rw [List.reverse_cons]
    exact ⟨.whole, .inr rfl, .cons hend hs htake (hP _) (passes_digits hP negative
      (List.cons_ne_nil d []) fun d hd => hds.digit d (List.mem_cons_of_mem _ hd))⟩

theorem le_foldl_digits (ds : List Nat) (m : Nat) : m ≤ ds.foldl (fun n d => n * 10 + d) m := by
  induction ds generalizing m with
  | nil => exact Nat.le_refl m
  | cons d ds ih =>
    have := ih (m * 10 + d)
    rw [List.foldl_cons]
    omega

/-- All digits count while the number they spell fits. -/
theorem absorb_fits {m : Nat} (h : ds.foldl (fun n d => n * 10 + d) m ≤ Text.wordMax) :
    absorb m ds = (ds.foldl (fun n d => n * 10 + d) m, ds.length) := by
  induction ds generalizing m with
  | nil => rfl
  | cons d ds ih =>
    rw [List.foldl_cons] at h
    rw [absorb, if_pos (Nat.le_trans (le_foldl_digits ds _) h), ih h]
    rfl

theorem value_draftOf {part : NumeralPart} (negative : Bool) (hpart : part = .zero ∨ part = .whole)
    (hds : Spells ds n) (hn : n ≤ if negative then 9223372036854775808 else Text.wordMax)
    (hzero : negative = true → n ≠ 0) :
    (draftOf negative part ds.reverse).value
      = .ok (.number (.whole (if negative then -n else n))) := by
  have hmax : n ≤ Text.wordMax := by
    refine Nat.le_trans hn ?_
    cases negative <;> decide
  have habsorb : absorb 0 ds = (n, ds.length) := by
    have htotal : ds.foldl (fun n d => n * 10 + d) 0 = n := hds.total
    rw [absorb_fits (htotal ▸ hmax), htotal]
  have hnumeral : (draftOf negative part ds.reverse).numeral = ⟨negative, ds, [], none⟩ := by
    rcases hpart with rfl | rfl <;> simp [draftOf, NumeralDraft.numeral]
  rw [NumeralDraft.value, hnumeral, Numeral.value?, habsorb]
  cases negative with
  | false => simp
  | true =>
    have hle : n ≤ 9223372036854775808 := hn
    simp [hzero rfl, hle]

theorem text_whole (i : Int) :
    (Number.text (.whole i)).toList =
      (if i < 0 then ['-'] else []) ++ Nat.toDigits 10 i.natAbs := by
  cases i with
  | ofNat n =>
    change (Nat.repr n).toList = _
    rw [Nat.repr_eq_ofList_toDigits, String.toList_ofList]
    rfl
  | negSucc n =>
    change ("-" ++ Nat.repr (n + 1)).toList = _
    rw [String.toList_append, Nat.repr_eq_ofList_toDigits, if_pos (Int.negSucc_lt_zero n)]
    exact congrArg ('-' :: ·) String.toList_ofList

/-- Whole numbers that a word holds, with a sign or without. -/
def FitsWord (i : Int) : Prop :=
  -9223372036854775808 ≤ i ∧ i ≤ Text.wordMax

theorem startValue_digit {d : Nat} (hd : d < 10) :
    startValue stack (digitByte d)
      = .ok ⟨stack, .numeral ((draftOf false .sign []).pushWhole d)⟩ := by
  have hother : ∀ d < 10, digitByte d ≠ 0x7B ∧ digitByte d ≠ 0x5B ∧ digitByte d ≠ 0x22 ∧
      digitByte d ≠ 0x6E ∧ digitByte d ≠ 0x74 ∧ digitByte d ≠ 0x66 ∧ digitByte d ≠ 0x2D := by
    decide
  obtain ⟨h1, h2, h3, h4, h5, h6, h7⟩ := hother d hd
  simp only [startValue, h1, h2, h3, h4, h5, h6, h7, if_false, byteDigit?_digitByte d hd]
  rfl

end Numbers

section Scalars

variable (hP : ∀ mode, isUnderWay mode = true → P ⟨stack, mode⟩)
include hP

theorem begins_holds (hm : begins mode) : P ⟨stack, mode⟩ :=
  hP _ (by rcases hm with rfl | rfl <;> rfl)

theorem passes_nat {ds : List Nat} {n : Nat} (hds : Spells ds n) (hn : n ≤ Text.wordMax)
    (hm : begins mode) : ∃ t, Passes P ⟨stack, mode⟩ (ds.map digitByte) t ∧
      Held stack (.number (.whole n)) t := by
  have hfree : ∀ d < 10, isBlankByte (digitByte d) = false ∧ digitByte d ≠ 0x5D := by decide
  obtain ⟨part, hpart, hpass⟩ := passes_spelled (fun _ => hP _ rfl) false hds
    (begins_holds hP hm) fun d hd =>
      ⟨endNumeral_begin hm, by
        rw [take_begin hm (hfree d hd).1 (hfree d hd).2, startValue_digit hd]⟩
  exact ⟨_, hpass, .pending hpart (value_draftOf false hpart hds hn (by simp))⟩

theorem passes_negative {ds : List Nat} {n : Nat} (hds : Spells ds n)
    (hn : n ≤ 9223372036854775808) (hzero : n ≠ 0) (hm : begins mode) :
    ∃ t, Passes P ⟨stack, mode⟩ (0x2D :: ds.map digitByte) t ∧
      Held stack (.number (.whole (-n))) t := by
  have hpush : ∀ d < 10, (draftOf true .sign []).push (digitByte d)
      = .ok (some ((draftOf true .sign []).pushWhole d)) := by
    intro d hd
    rw [NumeralDraft.push]
    simp [byteDigit?_digitByte d hd, draftOf]
  have hsign : Passes P ⟨stack, mode⟩ [0x2D] ⟨stack, .numeral (draftOf true .sign [])⟩ :=
    passes_begin hm (begins_holds hP hm) rfl (by decide) rfl (hP _ rfl)
  obtain ⟨part, hpart, hpass⟩ := passes_spelled (fun _ => hP _ rfl) true hds
    (hP (.numeral _) rfl) fun d hd => numeral_goesOn (hpush d hd)
  exact ⟨_, hsign.append hpass, .pending hpart (value_draftOf true hpart hds hn fun _ => hzero)⟩

theorem reads_whole {i : Int} (hi : FitsWord i) : Reads P stack (.number (.whole i)) := by
  intro mode hm
  obtain ⟨hlow, hhigh⟩ := hi
  obtain ⟨ds, hds, hdigits⟩ := toDigits_spells i.natAbs
  have hchars : chars (.number (.whole i)) = (Number.text (.whole i)).toList := by
    rw [chars.eq_3 _ (by simp) (by simp)]
    rfl
  rw [hchars, text_whole, encode_append, hdigits, encode_digitChars hds.digit]
  by_cases hneg : i < 0
  · obtain ⟨t, hpass, hheld⟩ := passes_negative hP hds (by omega) (by omega) hm
    rw [show -(i.natAbs : Int) = i by omega] at hheld
    rw [if_pos hneg]
    exact ⟨t, hpass, hheld⟩
  · obtain ⟨t, hpass, hheld⟩ := passes_nat hP hds (by omega) hm
    rw [show (i.natAbs : Int) = i by omega] at hheld
    rw [if_neg hneg]
    exact ⟨t, hpass, hheld⟩

theorem reads_null (hd : P (deliver stack .null)) : Reads P stack .null :=
  fun _ hm => ⟨_, (passes_begin hm (begins_holds hP hm) rfl (by decide) rfl (hP _ rfl)).append
    (passes_literal (by simp) (fun _ => hP _ rfl) hd), .delivered⟩

theorem reads_bool (b : Bool) (hd : P (deliver stack (.bool b))) : Reads P stack (.bool b) := by
  intro mode hm
  refine ⟨_, ?_, .delivered⟩
  cases b
  all_goals
    exact (passes_begin hm (begins_holds hP hm) rfl (by decide) rfl (hP _ rfl)).append
      (passes_literal (by simp) (fun _ => hP _ rfl) hd)

theorem reads_string (text : String) (hd : P (deliver stack (.string text))) :
    Reads P stack (.string text) := by
  intro mode hm
  have hbody : Passes P ⟨stack, .string false [] .plain⟩ _ (deliverString stack false text) :=
    passes_string (fun _ _ => hP _ rfl) text hd
  exact ⟨_, (passes_begin hm (begins_holds hP hm) rfl (by decide) rfl (hP _ rfl)).append hbody,
    .delivered⟩

end Scalars

end TraceView.Proofs.Json
