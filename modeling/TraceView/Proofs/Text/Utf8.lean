import Mathlib.Data.List.Induction
import TraceView.Text.Utf8

/-!
# Reading inverts writing

The bytes of a text are read back as the text. A first byte says how many more are owed and, for
the characters that could also be written too long or lie past the last code point, how the second
one is bounded; the later bytes carry six bits each.
-/

namespace TraceView.Proofs.Text

open TraceView.Text TraceView.Text.Utf8

variable {passed : List (Option Char)}

theorem encode_append (cs ds : List Char) : encode (cs ++ ds) = encode cs ++ encode ds :=
  List.flatMap_append

theorem encode_cons (c : Char) (cs : List Char) :
    encode (c :: cs) = String.utf8EncodeChar c ++ encode cs :=
  List.flatMap_cons

theorem length_encode (text : String) : (encode text.toList).length = text.utf8ByteSize := by
  rw [← String.size_toByteArray, ← String.utf8Encode_toList, List.utf8Encode,
    List.size_toByteArray, encode]

theorem toList_loop (bytes : ByteArray) (i : Nat) (read : List UInt8) :
    ByteArray.toList.loop bytes i read = read.reverse ++ bytes.data.toList.drop i := by
  fun_induction ByteArray.toList.loop bytes i read with
  | case1 i read h ih =>
    have hi : i < bytes.data.toList.length := h
    have hget : bytes.get! i = bytes.data.toList[i] := getElem!_pos bytes.data i h
    rw [ih, List.drop_eq_getElem_cons hi, hget, List.reverse_cons, List.append_assoc]
    rfl
  | case2 i read h => rw [List.drop_eq_nil_of_le (Nat.le_of_not_lt h), List.append_nil]

theorem toList_toUTF8 (text : String) : text.toUTF8.toList = encode text.toList := by
  have h : text.toUTF8.toList = text.toUTF8.data.toList := toList_loop text.toUTF8 0 []
  rw [h, String.toUTF8, ← String.utf8Encode_toList, List.utf8Encode,
    List.toList_data_toByteArray, encode]

theorem length_le_encode (cs : List Char) : cs.length ≤ (encode cs).length := by
  induction cs with
  | nil => exact Nat.le_refl 0
  | cons c cs ih =>
    have := c.utf8Size_pos
    rw [encode_cons, List.length_append, String.length_utf8EncodeChar, List.length_cons]
    omega

theorem toNat_bounds (c : Char) : c.toNat < 0x110000 ∧ ¬(0xD800 ≤ c.toNat ∧ c.toNat ≤ 0xDFFF) := by
  have h : c.toNat < 0xD800 ∨ 0xDFFF < c.toNat ∧ c.toNat < 0x110000 := c.valid
  omega

theorem encodeChar_eq (c : Char) :
    String.utf8EncodeChar c =
      if c.toNat ≤ 0x7F then [UInt8.ofNat c.toNat]
      else if c.toNat ≤ 0x7FF then
        [UInt8.ofNat (c.toNat / 64 % 32 + 192), UInt8.ofNat (c.toNat % 64 + 128)]
      else if c.toNat ≤ 0xFFFF then
        [UInt8.ofNat (c.toNat / 4096 % 16 + 224), UInt8.ofNat (c.toNat / 64 % 64 + 128),
          UInt8.ofNat (c.toNat % 64 + 128)]
      else
        [UInt8.ofNat (c.toNat / 262144 % 8 + 240), UInt8.ofNat (c.toNat / 4096 % 64 + 128),
          UInt8.ofNat (c.toNat / 64 % 64 + 128), UInt8.ofNat (c.toNat % 64 + 128)] :=
  rfl

section Bytes

variable {owed low high value b : Nat}

theorem push_first (hb : b < 256) :
    Progress.push ⟨passed, none⟩ (UInt8.ofNat b) = Progress.start passed b := by
  simp only [Progress.push, UInt8.toNat_ofNat', Nat.mod_eq_of_lt hb]

theorem push_next (hlow : low ≤ b) (hhigh : b ≤ high) (hb : b < 256) :
    Progress.push ⟨passed, some ⟨owed + 2, low, high, value⟩⟩ (UInt8.ofNat b)
      = ⟨passed, some ⟨owed + 1, 0x80, 0xBF, value * 64 + (b - 0x80)⟩⟩ := by
  simp only [Progress.push, UInt8.toNat_ofNat', Nat.mod_eq_of_lt hb]
  rw [if_pos ⟨hlow, hhigh⟩, if_neg (by omega)]
  rfl

theorem push_last (hlow : low ≤ b) (hhigh : b ≤ high) (hb : b < 256) :
    Progress.push ⟨passed, some ⟨1, low, high, value⟩⟩ (UInt8.ofNat b)
      = ⟨some (Char.ofNat (value * 64 + (b - 0x80))) :: passed, none⟩ := by
  simp only [Progress.push, UInt8.toNat_ofNat', Nat.mod_eq_of_lt hb]
  rw [if_pos ⟨hlow, hhigh⟩, if_pos (Nat.le_refl 1)]

end Bytes

section First

variable {v : Nat}

theorem ofByte_one (h : v ≤ 0x7F) : Start.ofByte v = .whole (Char.ofNat v) := by
  rw [Start.ofByte, if_pos (by omega)]

theorem ofByte_two (h : 0x7F < v) (h' : v ≤ 0x7FF) :
    Start.ofByte (v / 64 % 32 + 192) = .more ⟨1, 0x80, 0xBF, v / 64 % 32⟩ := by
  rw [Start.ofByte, if_neg (by omega), if_neg (by omega), if_pos (by omega), Nat.add_sub_cancel]

/-- The second byte of three lies between its bounds. -/
theorem ofByte_three (h : 0x7FF < v) (h' : v ≤ 0xFFFF) (hs : ¬(0xD800 ≤ v ∧ v ≤ 0xDFFF)) :
    ∃ low high, Start.ofByte (v / 4096 % 16 + 224) = .more ⟨2, low, high, v / 4096 % 16⟩ ∧
      low ≤ v / 64 % 64 + 128 ∧ v / 64 % 64 + 128 ≤ high := by
  rw [Start.ofByte, if_neg (by omega), if_neg (by omega), if_neg (by omega)]
  by_cases hE0 : v / 4096 % 16 = 0
  · rw [hE0, if_pos rfl]
    exact ⟨_, _, rfl, by omega, by omega⟩
  by_cases hED : v / 4096 % 16 = 0xD
  · rw [hED, if_neg (by omega), if_pos rfl]
    exact ⟨_, _, rfl, by omega, by omega⟩
  rw [if_neg (by omega), if_neg (by omega), if_pos (by omega), Nat.add_sub_cancel]
  exact ⟨_, _, rfl, by omega, by omega⟩

/-- So does the second byte of four. -/
theorem ofByte_four (h : 0xFFFF < v) (h' : v < 0x110000) :
    ∃ low high, Start.ofByte (v / 262144 % 8 + 240) = .more ⟨3, low, high, v / 262144 % 8⟩ ∧
      low ≤ v / 4096 % 64 + 128 ∧ v / 4096 % 64 + 128 ≤ high := by
  rw [Start.ofByte, if_neg (by omega), if_neg (by omega), if_neg (by omega), if_neg (by omega),
    if_neg (by omega), if_neg (by omega)]
  by_cases hF0 : v / 262144 % 8 = 0
  · rw [hF0, if_pos rfl]
    exact ⟨_, _, rfl, by omega, by omega⟩
  by_cases hF4 : v / 262144 % 8 = 4
  · rw [hF4, if_neg (by omega), if_neg (by omega), if_pos rfl]
    exact ⟨_, _, rfl, by omega, by omega⟩
  rw [if_neg (by omega), if_pos (by omega), Nat.add_sub_cancel]
  exact ⟨_, _, rfl, by omega, by omega⟩

end First

theorem push_char (passed : List (Option Char)) (c : Char) :
    (String.utf8EncodeChar c).foldl Progress.push ⟨passed, none⟩ = ⟨some c :: passed, none⟩ := by
  obtain ⟨hmax, hsurrogate⟩ := toNat_bounds c
  have hc : ∀ n, n = c.toNat → Char.ofNat n = c := fun n h => h ▸ Char.ofNat_toNat c
  rw [encodeChar_eq]
  by_cases h1 : c.toNat ≤ 0x7F
  · rw [if_pos h1, List.foldl_cons, List.foldl_nil, push_first (by omega), Progress.start,
      ofByte_one h1, hc _ rfl]
  rw [if_neg h1]
  by_cases h2 : c.toNat ≤ 0x7FF
  · rw [if_pos h2, List.foldl_cons, List.foldl_cons, List.foldl_nil, push_first (by omega),
      Progress.start, ofByte_two (by omega) h2]
    simp only
    rw [push_last (by omega) (by omega) (by omega), hc _ (by omega)]
  rw [if_neg h2]
  by_cases h3 : c.toNat ≤ 0xFFFF
  · obtain ⟨low, high, hstart, hlow, hhigh⟩ := ofByte_three (by omega) h3 hsurrogate
    rw [if_pos h3, List.foldl_cons, List.foldl_cons, List.foldl_cons, List.foldl_nil,
      push_first (by omega), Progress.start, hstart]
    simp only
    rw [push_next hlow hhigh (by omega), push_last (by omega) (by omega) (by omega),
      hc _ (by omega)]
  · obtain ⟨low, high, hstart, hlow, hhigh⟩ := ofByte_four (by omega) hmax
    rw [if_neg h3, List.foldl_cons, List.foldl_cons, List.foldl_cons, List.foldl_cons,
      List.foldl_nil, push_first (by omega), Progress.start, hstart]
    simp only
    rw [push_next hlow hhigh (by omega), push_next (by omega) (by omega) (by omega),
      push_last (by omega) (by omega) (by omega), hc _ (by omega)]

theorem push_encode (passed : List (Option Char)) (cs : List Char) :
    (encode cs).foldl Progress.push ⟨passed, none⟩ = ⟨cs.reverse.map some ++ passed, none⟩ := by
  induction cs generalizing passed with
  | nil => rfl
  | cons c cs ih =>
    rw [encode_cons, List.foldl_append, push_char, ih]
    simp

/-- The bytes of a text are read as the text. -/
theorem strict?_encode (cs : List Char) : strict? (encode cs) = some (String.ofList cs) := by
  have hdecode : decode (encode cs) = cs.map some := by
    rw [decode, push_encode, Progress.finish]
    simp
  have hall : (cs.map some).mapM id = some cs := by
    rw [List.mapM_map]
    exact (List.mapM_pure (f := id)).trans (by rw [List.map_id]; rfl)
  rw [strict?, hdecode, hall, Option.map_some]

/-- A character below U+0080 is its own byte. -/
theorem encodeChar_ascii {c : Char} (h : c.toNat < 0x80) :
    String.utf8EncodeChar c = [UInt8.ofNat c.toNat] :=
  if_pos (Nat.le_of_lt_succ h)

/-- Every byte of another character is past the ASCII ones. -/
theorem le_of_mem_encodeChar {c : Char} (h : 0x80 ≤ c.toNat) {b : UInt8}
    (hb : b ∈ String.utf8EncodeChar c) : 0x80 ≤ b.toNat := by
  obtain ⟨hmax, -⟩ := toNat_bounds c
  have hlow : ∀ n, 0x80 ≤ n → n < 256 → 0x80 ≤ (UInt8.ofNat n).toNat := by
    intro n hn hn'
    rwa [UInt8.toNat_ofNat', Nat.mod_eq_of_lt hn']
  rw [encodeChar_eq, if_neg (by omega)] at hb
  split at hb
  · simp only [List.mem_cons, List.not_mem_nil, or_false] at hb
    rcases hb with rfl | rfl <;> exact hlow _ (by omega) (by omega)
  split at hb
  · simp only [List.mem_cons, List.not_mem_nil, or_false] at hb
    rcases hb with rfl | rfl | rfl <;> exact hlow _ (by omega) (by omega)
  · simp only [List.mem_cons, List.not_mem_nil, or_false] at hb
    rcases hb with rfl | rfl | rfl | rfl <;> exact hlow _ (by omega) (by omega)

/-- The byte of a character below U+0080 stands for that character only. -/
theorem mem_of_byte_mem_encode {c : Char} {cs : List Char} (hc : c.toNat < 0x80)
    (h : UInt8.ofNat c.toNat ∈ encode cs) : c ∈ cs := by
  obtain ⟨d, hd, hmem⟩ := List.mem_flatMap.mp h
  have hbyte : (UInt8.ofNat c.toNat).toNat = c.toNat := by
    rw [UInt8.toNat_ofNat', Nat.mod_eq_of_lt (by omega)]
  by_cases hascii : d.toNat < 0x80
  · rw [encodeChar_ascii hascii, List.mem_singleton] at hmem
    have hcode : c.toNat = d.toNat := by
      rw [← hbyte, hmem, UInt8.toNat_ofNat', Nat.mod_eq_of_lt (by omega)]
    rwa [Char.toNat_inj.mp hcode]
  · have := le_of_mem_encodeChar (Nat.le_of_not_lt hascii) hmem
    omega

/-- Read as characters, each of one byte. NUL is left out: it also stands for numbers that are no
code points. -/
def ReadPlain (passed : List (Option Char)) (cs : List Char) : Prop :=
  passed.reverse = cs.map some ∧ ∀ c ∈ cs, 0 < c.toNat ∧ c.toNat < 0x80

/-- The character under way is not of one byte. -/
def Wide (p : Partial) : Prop :=
  16 ≤ p.value * 64 + (p.low - 0x80) ∧ (p.owed ≤ 1 → 2 ≤ p.value)

/-- What a state says about the bytes that led to it. -/
structure Reached (bytes : List UInt8) (s : Progress) : Prop where
  plain : s.pending = none → ∀ cs, ReadPlain s.passed cs → bytes = encode cs
  wide : ∀ p ∈ s.pending, Wide p

variable {bytes : List UInt8} {s : Progress}

theorem not_readPlain_none (cs : List Char) : ¬ ReadPlain (none :: passed) cs := by
  rintro ⟨h, -⟩
  have hmem : none ∈ cs.map some := by
    rw [← h]
    simp
  simp at hmem

theorem readPlain_cons {c : Char} {cs : List Char} (h : ReadPlain (some c :: passed) cs) :
    0 < c.toNat ∧ c.toNat < 0x80 ∧ ∃ front, cs = front ++ [c] ∧ ReadPlain passed front := by
  obtain ⟨hread, hplain⟩ := h
  rw [List.reverse_cons] at hread
  obtain ⟨front, last, rfl, hfront, hlast⟩ := List.append_eq_map_iff.mp hread
  obtain ⟨d, rfl, hd⟩ := List.map_eq_singleton_iff.mp hlast
  obtain rfl := Option.some.inj hd
  have hc := hplain d (List.mem_append_right _ (List.mem_singleton_self _))
  exact ⟨hc.1, hc.2, front, rfl, hfront.symm, fun e he => hplain e (List.mem_append_left _ he)⟩

/-- What a byte between characters can open. -/
def Opens (b : Nat) : Start → Prop
  | .whole c => b < 0x80 ∧ c = Char.ofNat b
  | .more p => Wide p
  | .bad => True

theorem wide_mk {owed low high value : Nat} (h : 16 ≤ value * 64 + (low - 0x80))
    (hlast : owed ≤ 1 → 2 ≤ value) : Wide ⟨owed, low, high, value⟩ := ⟨h, hlast⟩

theorem opens_ofByte (b : Nat) : Opens b (Start.ofByte b) :=
  iteInduction (fun h => ⟨h, rfl⟩) fun _ => iteInduction (fun _ => trivial) fun _ =>
    iteInduction (fun _ => wide_mk (by omega) (by omega)) fun _ =>
    iteInduction (fun _ => wide_mk (by omega) (by omega)) fun _ =>
    iteInduction (fun _ => wide_mk (by omega) (by omega)) fun _ =>
    iteInduction (fun _ => wide_mk (by omega) (by omega)) fun _ =>
    iteInduction (fun _ => wide_mk (by omega) (by omega)) fun _ =>
    iteInduction (fun _ => wide_mk (by omega) (by omega)) fun _ =>
    iteInduction (fun _ => wide_mk (by omega) (by omega)) fun _ => trivial

theorem Reached.of_read (h : ∀ cs, ReadPlain passed cs → bytes = encode cs) :
    Reached bytes ⟨passed, none⟩ :=
  ⟨fun _ => h, by simp⟩

theorem Reached.of_wide {p : Partial} (h : Wide p) : Reached bytes ⟨passed, some p⟩ :=
  ⟨by simp, by simpa using h⟩

theorem Reached.start (h : ∀ cs, ReadPlain passed cs → bytes = encode cs) (b : UInt8) :
    Reached (bytes ++ [b]) (Progress.start passed b.toNat) := by
  rw [Progress.start]
  have hopens := opens_ofByte b.toNat
  cases hstart : Start.ofByte b.toNat with
  | whole c =>
    rw [hstart] at hopens
    obtain ⟨hb, rfl⟩ := hopens
    refine .of_read fun cs hcs => ?_
    obtain ⟨-, -, front, rfl, hfront⟩ := readPlain_cons hcs
    have hcode : (Char.ofNat b.toNat).toNat = b.toNat := by
      rw [Char.ofNat, dif_pos (.inl (by omega))]
      rfl
    have hbyte : String.utf8EncodeChar (Char.ofNat b.toNat) = [b] := by
      rw [encodeChar_ascii (by rwa [hcode]), hcode, UInt8.ofNat_toNat]
    rw [h front hfront, encode_append, encode_cons, hbyte]
    rfl
  | more p =>
    rw [hstart] at hopens
    exact .of_wide hopens
  | bad => exact .of_read fun cs hcs => absurd hcs (not_readPlain_none cs)

theorem toNat_ofNat_cases (n : Nat) : (Char.ofNat n).toNat = n ∨ (Char.ofNat n).toNat = 0 := by
  by_cases h : n.isValidChar
  · rw [Char.ofNat, dif_pos h]
    exact .inl rfl
  · rw [Char.ofNat, dif_neg h]
    exact .inr rfl

theorem Reached.push (h : Reached bytes s) (b : UInt8) : Reached (bytes ++ [b]) (s.push b) := by
  rw [Progress.push]
  cases hpending : s.pending with
  | none => exact .start (h.plain hpending) b
  | some p =>
    obtain ⟨hvalue, hlast⟩ := h.wide p hpending
    simp only
    split
    · split
      · -- the character is past the ones of a single byte, or no code point
        refine .of_read fun cs hcs => ?_
        obtain ⟨hpos, hsmall, -⟩ := readPlain_cons hcs
        have := toNat_ofNat_cases (p.value * 64 + (b.toNat - 0x80))
        omega
      · exact .of_wide (wide_mk (by omega) (by omega))
    · exact .start (fun cs hcs => absurd hcs (not_readPlain_none cs)) b

theorem reached_foldl (bytes : List UInt8) :
    Reached bytes (bytes.foldl Progress.push ⟨[], none⟩) := by
  induction bytes using List.reverseRecOn with
  | nil =>
    refine .of_read fun cs hcs => ?_
    rw [List.map_eq_nil_iff.mp hcs.1.symm]
    rfl
  | append_singleton bytes b ih =>
    rw [List.foldl_append]
    exact ih.push b

theorem eq_map_of_mapM {os : List (Option Char)} {cs : List Char} (h : os.mapM id = some cs) :
    os = cs.map some := by
  induction os generalizing cs with
  | nil =>
    cases h
    rfl
  | cons o os ih =>
    rw [List.mapM_cons, Option.bind_eq_bind, Option.bind_eq_some_iff] at h
    obtain ⟨c, hc, h⟩ := h
    rw [Option.bind_eq_bind, Option.bind_eq_some_iff] at h
    obtain ⟨cs, hos, ⟨⟩⟩ := h
    rw [ih hos, List.map_cons]
    exact congrArg (· :: _) hc

/-- Bytes that are read as characters of one byte each are the bytes of these characters. -/
theorem bytes_of_strict? {text : String} (h : strict? bytes = some text)
    (hplain : ∀ c ∈ text.toList, 0 < c.toNat ∧ c.toNat < 0x80) : bytes = encode text.toList := by
  rw [strict?, Option.map_eq_some_iff] at h
  obtain ⟨cs, hcs, rfl⟩ := h
  rw [String.toList_ofList] at hplain ⊢
  have hread := eq_map_of_mapM hcs
  rw [decode, Progress.finish] at hread
  split at hread
  · next hpending => exact (reached_foldl bytes).plain hpending cs ⟨hread, hplain⟩
  · exact absurd ⟨hread, hplain⟩ (not_readPlain_none cs)

end TraceView.Proofs.Text
