import TraceView.Editor.Frame
import TraceView.Proofs.Text.Blank
import TraceView.Proofs.Text.Numeral

/-!
# Header lines

How the reader of frames takes one line of a header: a line of nothing but carriage returns is
blank, a line that begins with `Content-Length:` announces what its value spells, and any other
line says nothing.
-/

namespace TraceView.Proofs.Editor

open TraceView TraceView.Editor TraceView.Editor.Frame TraceView.Text TraceView.Text.Utf8
  TraceView.Proofs.Text

variable {started : Bool} {length : Option Nat} {line value : List Char} {bytes rest : List UInt8}
  {n : Nat}

/-- A line's bytes are read up to its newline. -/
theorem header_through (h : ∀ b ∈ bytes, b ≠ 0x0A) (front : List UInt8) :
    header started length front (bytes ++ 0x0A :: rest) =
      headerLine started length (bytes.reverse ++ front) rest
        fun started length => header started length [] rest := by
  induction bytes generalizing front with
  | nil =>
    rw [List.nil_append, header, if_pos rfl]
    rfl
  | cons b bytes ih =>
    rw [List.cons_append, header, if_neg (h b List.mem_cons_self),
      ih fun b hb => h b (List.mem_cons_of_mem _ hb), List.reverse_cons, List.append_assoc]
    rfl

theorem header_line (h : '\n' ∉ line) :
    header started length [] (encode line ++ 0x0A :: rest) =
      match HeaderLine.ofChars line with
      | .blank => if started then .complete length rest else header false length [] rest
      | .length n => header true n [] rest
      | .other => header true length [] rest := by
  have hbytes : ∀ b ∈ encode line, b ≠ 0x0A := by
    rintro _ hb rfl
    exact h (mem_of_byte_mem_encode (c := '\n') (by decide) hb)
  have htext : (String.ofList line).toList = line := String.toList_ofList
  rw [header_through hbytes, List.append_nil, headerLine, List.reverse_reverse, strict?_encode]
  cases hline : HeaderLine.ofChars line <;> simp only [htext, hline]

/-- A line that is blank to the reader. So is an empty one, whether it ends in LF or in CRLF. -/
def Bare (line : List Char) : Prop := ∀ c ∈ line, c = '\r'

instance (line : List Char) : Decidable (Bare line) :=
  List.decidableBAll (· = '\r') line

theorem isLineEnd_iff {c : Char} : isLineEnd c = true ↔ c = '\r' ∨ c = '\n' := by
  simp only [isLineEnd, Bool.or_eq_true, decide_eq_true_eq]

theorem Bare.lineEnds (h : Bare line) : ∀ c ∈ line, isLineEnd c = true := by
  intro c hc
  rw [h c hc]
  rfl

theorem Bare.newline_notMem (h : Bare line) : '\n' ∉ line :=
  fun hn => absurd (h _ hn) (by decide)

theorem ofChars_bare (h : Bare line) : HeaderLine.ofChars line = .blank := by
  have hnil : dropEndWhile isLineEnd line = [] := List.rdropWhile_eq_nil_iff.mpr h.lineEnds
  rw [HeaderLine.ofChars, hnil]

def isLength (line : List Char) : Bool := lengthHeader.toList.isPrefixOf line

/-- What a length line announces. -/
def lengthOf? (line : List Char) : Option Nat :=
  signedWordValue? (trimChars (line.drop lengthHeader.length))

theorem isLength_iff : isLength line = true ↔ ∃ value, line = lengthHeader.toList ++ value :=
  List.isPrefixOf_iff_prefix.trans ⟨fun ⟨v, h⟩ => ⟨v, h.symm⟩, fun ⟨v, h⟩ => ⟨v, h.symm⟩⟩

theorem lengthOf?_append (value : List Char) :
    lengthOf? (lengthHeader.toList ++ value) = signedWordValue? (trimChars value) := by
  rw [lengthOf?, List.drop_left' String.length_toList]

theorem dropEndWhile_lengthHeader (value : List Char) :
    dropEndWhile isLineEnd (lengthHeader.toList ++ value) =
      lengthHeader.toList ++ dropEndWhile isLineEnd value := by
  have hheader : lengthHeader.toList = "Content-Length".toList ++ [':'] := by decide
  rw [hheader, List.append_assoc, List.append_assoc]
  exact dropEndWhile_append_cons rfl

theorem allBlank_lineEnds (h : ∀ c ∈ line, isLineEnd c = true) : AllBlank line := by
  intro c hc
  rcases isLineEnd_iff.mp (h c hc) with rfl | rfl <;> decide

/-- Line ends after a value are trimmed with the blanks around it. -/
theorem trimChars_dropEndWhile (value : List Char) :
    trimChars (dropEndWhile isLineEnd value) = trimChars value := by
  have hends : AllBlank (value.rtakeWhile isLineEnd) :=
    allBlank_lineEnds fun c hc => List.mem_rtakeWhile_imp hc
  have hvalue : dropEndWhile isLineEnd value ++ value.rtakeWhile isLineEnd = value :=
    List.rdropWhile_append_rtakeWhile
  rw [← trimChars_append_right hends, hvalue]

theorem ofChars_solid (hn : '\n' ∉ line) (h : ¬ Bare line) :
    HeaderLine.ofChars line = if isLength line then .length (lengthOf? line) else .other := by
  have hcut : dropEndWhile isLineEnd line ≠ [] := by
    intro hnil
    refine h fun c hc => ?_
    have hend := isLineEnd_iff.mp (List.rdropWhile_eq_nil_iff.mp hnil c hc)
    exact hend.resolve_right fun he => hn (he ▸ hc)
  have hprefix : dropEndWhile isLineEnd line <+: line := List.rdropWhile_prefix ..
  unfold HeaderLine.ofChars
  split
  · next hnil => exact absurd hnil hcut
  by_cases hline : isLength line = true
  · obtain ⟨value, rfl⟩ := isLength_iff.mp hline
    rw [dropEndWhile_lengthHeader, if_pos hline, lengthOf?_append,
      if_pos (List.isPrefixOf_iff_prefix.mpr (List.prefix_append _ _)),
      List.drop_left' String.length_toList, trimChars_dropEndWhile]
  · rw [if_neg hline, if_neg]
    exact fun hpre => hline (List.isPrefixOf_iff_prefix.mpr
      ((List.isPrefixOf_iff_prefix.mp hpre).trans hprefix))

/-- A value that holds a number: its digits, after any zeros and perhaps a plus sign, with blanks
around them. -/
inductive Announces (n : Nat) : List Char → Prop where
  | mk {front sign back : List Char} {ds : List Nat} (hfront : AllBlank front)
      (hsign : sign = [] ∨ sign = ['+']) (hne : ds ≠ []) (hdigit : ∀ d ∈ ds, d < 10)
      (htotal : digitsTotal ds = n) (hback : AllBlank back) :
      Announces n (front ++ (sign ++ ds.map Nat.digitChar) ++ back)

theorem isBlank_digitChar : ∀ d < 10, isBlank (Nat.digitChar d) = false := by decide

theorem Announces.signedWordValue? (h : Announces n value) (hmax : n ≤ wordMax) :
    signedWordValue? (trimChars value) = some n := by
  obtain @⟨front, sign, back, ds, hfront, hsign, hne, hdigit, rfl, hback⟩ := h
  have hdigits : ∀ c ∈ ds.map Nat.digitChar, isBlank c = false := by
    intro c hc
    obtain ⟨d, hd, rfl⟩ := List.mem_map.mp hc
    exact isBlank_digitChar d (hdigit d hd)
  have hplain : ∀ c ∈ sign ++ ds.map Nat.digitChar, isBlank c = false := by
    intro c hc
    rcases List.mem_append.mp hc with hc | hc
    · rcases hsign with rfl | rfl
      · cases hc
      · rw [List.mem_singleton.mp hc]
        decide
    · exact hdigits c hc
  rw [trimChars_append_right hback, trimChars_append_left hfront, trimChars_of_no_blank hplain]
  rcases hsign with rfl | rfl
  · exact signedWordValue?_digitChars hne hdigit hmax
  · exact wordValue?_digitChars hne hdigit hmax

theorem lengthOf?_announces (h : Announces n value) (hmax : n ≤ wordMax) :
    lengthOf? (lengthHeader.toList ++ value) = some n :=
  (lengthOf?_append value).trans (h.signedWordValue? hmax)

end TraceView.Proofs.Editor
