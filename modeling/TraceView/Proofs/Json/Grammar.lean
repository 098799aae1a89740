import TraceView.Proofs.Html.ScriptData
import TraceView.Text.Numeral

/-!
# The grammar of JSON

What a text of JSON is and what it means, for texts of any depth and size. Strings mean sequences of
UTF-16 units, so that a unit of a surrogate alone has a meaning too; literals and numerals stand for
themselves. Guarding keeps a text in the grammar, with the meaning it has.
-/
namespace TraceView.Proofs.Json

open TraceView TraceView.Proofs.Html
open TraceView.Html (guardScriptChars guardScript)

inductive Meaning where
  | word (text : List Char)
  | string (units : List Nat)
  | array (items : List Meaning)
  /-- The fields as they stand in the text. -/
  | object (fields : List (List Nat × Meaning))

def AreDigits (cs : List Char) : Prop := cs ≠ [] ∧ ∀ c ∈ cs, c.isDigit = true

def IsFraction (cs : List Char) : Prop := cs = [] ∨ ∃ digits, cs = '.' :: digits ∧ AreDigits digits

def IsExponent (cs : List Char) : Prop :=
  cs = [] ∨ ∃ mark sign digits, cs = mark :: (sign ++ digits) ∧ mark ∈ ['e', 'E'] ∧
    sign ∈ [[], ['+'], ['-']] ∧ AreDigits digits

def IsNumeral (cs : List Char) : Prop :=
  ∃ sign whole fraction exponent, cs = sign ++ whole ++ fraction ++ exponent ∧
    sign ∈ [[], ['-']] ∧ AreDigits whole ∧ (whole.head? = some '0' → whole = ['0']) ∧
      IsFraction fraction ∧ IsExponent exponent

def IsWord (cs : List Char) : Prop :=
  cs = ['n', 'u', 'l', 'l'] ∨ cs = ['t', 'r', 'u', 'e'] ∨ cs = ['f', 'a', 'l', 's', 'e'] ∨
    IsNumeral cs

/-- The units of a character. -/
def units (c : Char) : List Nat :=
  if c.toNat < 0x10000 then [c.toNat]
  else [0xD800 + (c.toNat - 0x10000) / 0x400, 0xDC00 + (c.toNat - 0x10000) % 0x400]

/-- The letters behind a backslash, and the units they stand for. -/
def shortEscapes : List (Char × Nat) :=
  [('"', 0x22), ('\\', 0x5C), ('/', 0x2F), ('b', 0x08), ('f', 0x0C), ('n', 0x0A), ('r', 0x0D),
    ('t', 0x09)]

/-- The text begins with the rest of a string, up to its closing quote. -/
inductive Quoted : List Nat → List Char → List Char → Prop
  | close {rest} : Quoted [] ('"' :: rest) rest
  | plain {text cs rest} (c : Char) (hquote : c ≠ '"') (hslash : c ≠ '\\')
      (hcontrol : 0x20 ≤ c.toNat) (h : Quoted text cs rest) : Quoted (units c ++ text) (c :: cs) rest
  | short {text cs rest} (e : Char) (unit : Nat) (he : (e, unit) ∈ shortEscapes)
      (h : Quoted text cs rest) : Quoted (unit :: text) ('\\' :: e :: cs) rest
  | unit {text cs rest} {a b c d : Char} {i j k l : Nat} (ha : Text.hexValue? a = some i)
      (hb : Text.hexValue? b = some j) (hc : Text.hexValue? c = some k)
      (hd : Text.hexValue? d = some l) (h : Quoted text cs rest) :
      Quoted ((((i * 16 + j) * 16 + k) * 16 + l) :: text) ('\\' :: 'u' :: a :: b :: c :: d :: cs)
        rest

/-- What a part of a text is read as: a value, or what is left of an array or an object that has been
opened and is not empty. -/
inductive Part where
  | value (v : Meaning)
  | items (items : List Meaning)
  | fields (fields : List (List Nat × Meaning))

inductive Blanks : List Char → List Char → Prop
  | none {cs} : Blanks cs cs
  | blank {cs rest} (c : Char) (hc : c ∈ [' ', '\n', '\t', '\r']) (h : Blanks cs rest) :
      Blanks (c :: cs) rest

/-- The text begins with the part, and goes on with the rest. -/
inductive Parses : Part → List Char → List Char → Prop
  | word {w rest} (h : IsWord w) : Parses (.value (.word w)) (w ++ rest) rest
  | string {text cs rest} (h : Quoted text cs rest) : Parses (.value (.string text)) ('"' :: cs) rest
  | emptyArray {cs rest} (h : Blanks cs (']' :: rest)) : Parses (.value (.array [])) ('[' :: cs) rest
  | array {items cs rest} (h : Parses (.items items) cs rest) :
      Parses (.value (.array items)) ('[' :: cs) rest
  | emptyObject {cs rest} (h : Blanks cs ('}' :: rest)) :
      Parses (.value (.object [])) ('{' :: cs) rest
  | object {fields cs rest} (h : Parses (.fields fields) cs rest) :
      Parses (.value (.object fields)) ('{' :: cs) rest
  | lastItem {v cs start stop rest} (hbefore : Blanks cs start) (h : Parses (.value v) start stop)
      (hafter : Blanks stop (']' :: rest)) : Parses (.items [v]) cs rest
  | item {v items cs start stop more rest} (hbefore : Blanks cs start)
      (h : Parses (.value v) start stop) (hafter : Blanks stop (',' :: more))
      (hmore : Parses (.items items) more rest) : Parses (.items (v :: items)) cs rest
  | lastField {key v cs name colon behind start stop rest} (hname : Blanks cs ('"' :: name))
      (hkey : Quoted key name colon) (hcolon : Blanks colon (':' :: behind))
      (hbefore : Blanks behind start) (h : Parses (.value v) start stop)
      (hafter : Blanks stop ('}' :: rest)) : Parses (.fields [(key, v)]) cs rest
  | field {key v fields cs name colon behind start stop more rest} (hname : Blanks cs ('"' :: name))
      (hkey : Quoted key name colon) (hcolon : Blanks colon (':' :: behind))
      (hbefore : Blanks behind start) (h : Parses (.value v) start stop)
      (hafter : Blanks stop (',' :: more)) (hmore : Parses (.fields fields) more rest) :
      Parses (.fields ((key, v) :: fields)) cs rest

/-- The whole text is JSON of that meaning. -/
def Means (cs : List Char) (v : Meaning) : Prop :=
  ∃ start stop, Blanks cs start ∧ Parses (.value v) start stop ∧ Blanks stop []

theorem guardScriptChars_append {w : List Char} (h : '<' ∉ w) (rest : List Char) :
    guardScriptChars (w ++ rest) = w ++ guardScriptChars rest := by
  induction w with
  | nil => rfl
  | cons c w ih =>
    obtain ⟨hc, hw⟩ := List.ne_and_not_mem_of_not_mem_cons h
    rw [List.cons_append, guardScriptChars_cons (Ne.symm hc), ih hw, List.cons_append]

theorem guardScriptChars_less (cs : List Char) :
    guardScriptChars ('<' :: cs) = '<' :: guardScriptChars cs ∨
      ∃ rest, cs = '/' :: rest ∧
        guardScriptChars ('<' :: cs) = '<' :: '\\' :: '/' :: guardScriptChars rest := by
  match cs with
  | [] => exact .inl rfl
  | c :: cs =>
    by_cases hc : c = '/'
    · subst hc
      rw [guardScriptChars, guardScriptChars_cons (by decide)]
      split
      · exact .inr ⟨cs, rfl, rfl⟩
      · exact .inl rfl
    · rw [guardScriptChars]
      · exact .inl rfl
      · rintro _ _ ⟨⟩
        exact hc rfl

theorem less_not_mem_of_digits {cs : List Char} (h : AreDigits cs) : '<' ∉ cs :=
  fun hless => absurd (h.2 _ hless) (by decide)

theorem less_not_mem_of_word {w : List Char} (h : IsWord w) : '<' ∉ w := by
  have hsign : ∀ sign ∈ [[], ['+'], ['-']], '<' ∉ sign := by decide
  obtain rfl | rfl | rfl | ⟨sign, whole, fraction, exponent, rfl, hs, hwhole, -, hfraction,
    hexponent⟩ := h
  · decide
  · decide
  · decide
  · have hfraction' : '<' ∉ fraction := by
      obtain rfl | ⟨digits, rfl, hdigits⟩ := hfraction
      · exact List.not_mem_nil
      · exact List.not_mem_cons_of_ne_of_not_mem (by decide) (less_not_mem_of_digits hdigits)
    have hexponent' : '<' ∉ exponent := by
      obtain rfl | ⟨mark, sign, digits, rfl, hmark, hs, hdigits⟩ := hexponent
      · exact List.not_mem_nil
      · have hne : '<' ≠ mark := by
          rintro rfl
          exact absurd hmark (by decide)
        exact List.not_mem_cons_of_ne_of_not_mem hne
          (List.not_mem_append (hsign _ hs) (less_not_mem_of_digits hdigits))
    have hs' : sign ∈ [[], ['+'], ['-']] := by
      rcases List.mem_cons.mp hs with rfl | hs
      · exact List.mem_cons_self
      · exact List.mem_cons_of_mem _ (List.mem_cons_of_mem _ hs)
    exact List.not_mem_append (List.not_mem_append (List.not_mem_append (hsign _ hs')
      (less_not_mem_of_digits hwhole)) hfraction') hexponent'

theorem hexValue?_ne_less {c : Char} {n : Nat} (h : Text.hexValue? c = some n) : c ≠ '<' := by
  rintro rfl
  cases h

theorem Blanks.guard {cs rest : List Char} (h : Blanks cs rest) :
    Blanks (guardScriptChars cs) (guardScriptChars rest) := by
  induction h with
  | none => exact .none
  | blank c hc _ ih =>
    have hne : c ≠ '<' := by
      rintro rfl
      exact absurd hc (by decide)
    rw [guardScriptChars_cons hne]
    exact .blank c hc ih

/-- In a string a slash means the same with a backslash before it. -/
theorem Quoted.guard {text : List Nat} {cs rest : List Char} (h : Quoted text cs rest) :
    Quoted text (guardScriptChars cs) (guardScriptChars rest) := by
  induction h with
  | close =>
    rw [guardScriptChars_cons (by decide)]
    exact .close
  | @plain text cs rest c hquote hslash hcontrol h ih =>
    by_cases hless : c = '<'
    · subst hless
      obtain hkept | ⟨more, rfl, hguarded⟩ := guardScriptChars_less cs
      · rw [hkept]
        exact .plain '<' hquote hslash hcontrol ih
      · rw [guardScriptChars_cons (by decide)] at ih
        rw [hguarded]
        cases ih with
        | plain _ _ _ _ hmore =>
          exact .plain '<' hquote hslash hcontrol (.short '/' 0x2F (by decide) hmore)
    · rw [guardScriptChars_cons hless]
      exact .plain c hquote hslash hcontrol ih
  | short e unit he _ ih =>
    have hne : e ≠ '<' := by
      rintro rfl
      simp [shortEscapes] at he
    rw [guardScriptChars_cons (by decide), guardScriptChars_cons hne]
    exact .short e unit he ih
  | unit ha hb hc hd _ ih =>
    rw [guardScriptChars_cons (by decide), guardScriptChars_cons (by decide),
      guardScriptChars_cons (hexValue?_ne_less ha), guardScriptChars_cons (hexValue?_ne_less hb),
      guardScriptChars_cons (hexValue?_ne_less hc), guardScriptChars_cons (hexValue?_ne_less hd)]
    exact .unit ha hb hc hd ih

theorem Parses.guard {part : Part} {cs rest : List Char} (h : Parses part cs rest) :
    Parses part (guardScriptChars cs) (guardScriptChars rest) := by
  -- Outside strings no character is a `<`, so each mark is kept.
  have hmark : ∀ {c cs cs'}, c ≠ '<' → Blanks cs' (c :: cs) →
      Blanks (guardScriptChars cs') (c :: guardScriptChars cs) := by
    intro c cs cs' hc h
    rw [← guardScriptChars_cons hc]
    exact h.guard
  induction h with
  | word h =>
    rw [guardScriptChars_append (less_not_mem_of_word h)]
    exact .word h
  | string h =>
    rw [guardScriptChars_cons (by decide)]
    exact .string h.guard
  | emptyArray h =>
    rw [guardScriptChars_cons (by decide)]
    exact .emptyArray (hmark (by decide) h)
  | array _ ih =>
    rw [guardScriptChars_cons (by decide)]
    exact .array ih
  | emptyObject h =>
    rw [guardScriptChars_cons (by decide)]
    exact .emptyObject (hmark (by decide) h)
  | object _ ih =>
    rw [guardScriptChars_cons (by decide)]
    exact .object ih
  | lastItem hbefore _ hafter ih => exact .lastItem hbefore.guard ih (hmark (by decide) hafter)
  | item hbefore _ hafter _ ih ihmore =>
    exact .item hbefore.guard ih (hmark (by decide) hafter) ihmore
  | lastField hname hkey hcolon hbefore _ hafter ih =>
    exact .lastField (hmark (by decide) hname) hkey.guard (hmark (by decide) hcolon) hbefore.guard ih
      (hmark (by decide) hafter)
  | field hname hkey hcolon hbefore _ hafter _ ih ihmore =>
    exact .field (hmark (by decide) hname) hkey.guard (hmark (by decide) hcolon) hbefore.guard ih
      (hmark (by decide) hafter) ihmore

theorem Means.guard {cs : List Char} {v : Meaning} (h : Means cs v) :
    Means (guardScriptChars cs) v := by
  obtain ⟨start, stop, hbefore, h, hafter⟩ := h
  exact ⟨_, _, hbefore.guard, h.guard, hafter.guard⟩

end TraceView.Proofs.Json
