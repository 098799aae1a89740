import Mathlib.Data.List.DropRight
import TraceView.Json.Writer
import TraceView.Proofs.Json.Grammar
import TraceView.Proofs.Json.Scalar

/-!
# What is written as JSON

Every value is written as a text of the grammar, whatever its depth and its numbers. A double has a
digit before the point and one after it, and the digits of a number above zero begin with no zero.
-/
namespace TraceView.Proofs.Json

open TraceView TraceView.Json
open TraceView.Proofs.Text (toDigits_spells)

variable {cs ds : List Char} {n : Nat}

/-- Digits that can stand before the point. -/
def AreWhole (cs : List Char) : Prop := AreDigits cs ∧ (cs.head? = some '0' → cs = ['0'])

theorem AreDigits.append (h : AreDigits cs) (h' : ∀ c ∈ ds, c.isDigit = true) :
    AreDigits (cs ++ ds) := by
  refine ⟨List.append_ne_nil_of_left_ne_nil h.1 _, fun c hc => ?_⟩
  rcases List.mem_append.mp hc with hc | hc
  · exact h.2 c hc
  · exact h' c hc

theorem areWhole_zero : AreWhole ['0'] :=
  ⟨⟨List.cons_ne_nil _ _, List.forall_mem_singleton.mpr rfl⟩, fun _ => rfl⟩

theorem isDigit_replicate {c : Char} (hc : c ∈ List.replicate n '0') : c.isDigit = true := by
  rw [List.eq_of_mem_replicate hc]
  rfl

theorem areDigits_toDigits (n : Nat) : AreDigits (Nat.toDigits 10 n) := by
  obtain ⟨digits, hspells, heq⟩ := toDigits_spells n
  have hdigit : ∀ d < 10, (Nat.digitChar d).isDigit = true := by decide
  rw [heq]
  refine ⟨by simpa using hspells.ne_nil, fun c hc => ?_⟩
  obtain ⟨d, hd, rfl⟩ := List.mem_map.mp hc
  exact hdigit d (hspells.digit d hd)

/-- Only nothing begins with a zero. -/
theorem head?_toDigits (h : (Nat.toDigits 10 n).head? = some '0') : n = 0 := by
  obtain ⟨digits, hspells, heq⟩ := toDigits_spells n
  have hzero : ∀ d < 10, Nat.digitChar d = '0' → d = 0 := by decide
  rcases hspells.lead with rfl | ⟨d, rest, rfl, hd⟩
  · exact hspells.total.symm
  · rw [heq, List.map_cons, List.head?_cons, Option.some.injEq] at h
    exact absurd (hzero d (hspells.digit d List.mem_cons_self) h) hd

theorem areWhole_toDigits (n : Nat) : AreWhole (Nat.toDigits 10 n) := by
  refine ⟨areDigits_toDigits n, fun hhead => ?_⟩
  rw [head?_toDigits hhead]
  rfl

theorem twoTo_pos (n : Nat) : 0 < Double.twoTo n := Nat.pow_pos (by decide)

theorem tenTo_pos (n : Nat) : 0 < Double.tenTo n := Nat.pow_pos (by decide)

/-- Nothing rounds to a double above zero but what is above zero. -/
theorem low_pos {x : Double} (hx : x.isZero = false) : 0 < x.interval.low := by
  have hm : x.mantissa ≠ 0 := of_decide_eq_false hx
  refine Nat.mul_pos ?_ (twoTo_pos _)
  split <;> omega

theorem pos_of_has {i : Double.Interval} {num den : Nat} (hlow : 0 < i.low) (hden : 0 < den)
    (h : i.has num den = true) : 0 < num := by
  refine Nat.pos_of_ne_zero fun hzero => ?_
  have hpos : 0 < i.low * den := Nat.mul_pos hlow hden
  subst hzero
  unfold Double.Interval.has at h
  simp only [Nat.zero_mul] at h
  split at h
  · have := of_decide_eq_true (Bool.and_eq_true_iff.mp h).1
    omega
  · have := of_decide_eq_true (Bool.and_eq_true_iff.mp h).1
    omega

theorem pos_of_gridPoint {i : Double.Interval} {power : Int} (hlow : 0 < i.low)
    (h : i.has (Double.gridPoint n power).1 (Double.gridPoint n power).2 = true) : 0 < n := by
  unfold Double.gridPoint at h
  split at h
  · exact pos_of_has hlow (tenTo_pos _) h
  · exact Nat.pos_of_mul_pos_right (pos_of_has hlow Nat.one_pos h)

theorem neighbour_pos {i : Double.Interval} {lead : Int} {count : Nat} (hlow : 0 < i.low)
    (h : Double.neighbour? i lead count = some n) : 0 < n := by
  have hor : ∀ (c : Prop) [Decidable c] {m : Nat}, 0 < m → 0 < if c then m else m + 1 := by
    intro c _ m hm
    split
    · exact hm
    · exact Nat.succ_pos m
  unfold Double.neighbour? at h
  dsimp only at h
  split at h
  · next hhit _ =>
    cases h
    exact hor _ (pos_of_gridPoint hlow hhit)
  · next hhit _ =>
    cases h
    exact pos_of_gridPoint hlow hhit
  · cases h
    exact Nat.succ_pos _
  · cases h

/-- The digits of a double: they begin with a zero only if there is no other, and then it is one. -/
structure Leads (d : Digits) : Prop where
  digits : AreDigits d.digits
  zero : d.digits.head? = some '0' → d = ⟨['0'], 0⟩

theorem leads_zero : Leads ⟨['0'], 0⟩ := ⟨areWhole_zero.1, fun _ => rfl⟩

theorem leads_ofGrid (hn : 0 < n) (power : Int) : Leads (Double.Digits.ofGrid n power) := by
  have hdigits := areDigits_toDigits n
  have hhead : (Nat.toDigits 10 n).head? ≠ some '0' := fun h => Nat.ne_of_gt hn (head?_toDigits h)
  have hcut : (Nat.toDigits 10 n).rdropWhile (· = '0') ≠ [] := by
    intro hnil
    obtain ⟨c, rest, hc⟩ := List.exists_cons_of_ne_nil hdigits.1
    have hzero := List.rdropWhile_eq_nil_iff.mp hnil c (hc ▸ List.mem_cons_self)
    rw [hc, of_decide_eq_true hzero] at hhead
    exact hhead rfl
  obtain ⟨zeros, happend⟩ : (Nat.toDigits 10 n).rdropWhile (· = '0') <+: Nat.toDigits 10 n :=
    List.rdropWhile_prefix ..
  have hofGrid : (Double.Digits.ofGrid n power).digits =
      (Nat.toDigits 10 n).rdropWhile (· = '0') := if_neg hcut
  constructor
  · rw [hofGrid]
    refine ⟨hcut, fun c hc => hdigits.2 c ?_⟩
    rw [← happend]
    exact List.mem_append_left _ hc
  · rw [hofGrid, ← List.head?_append_of_ne_nil _ hcut, happend]
    exact fun h => absurd h hhead

theorem leads_shortest (x : Double) : Leads x.shortest := by
  unfold Double.shortest
  cases hx : x.isZero with
  | true => exact leads_zero
  | false =>
    rw [if_neg Bool.false_ne_true]
    dsimp only
    split
    · next d hfound =>
      obtain ⟨k, -, hk⟩ := List.exists_of_findSome?_eq_some hfound
      obtain ⟨n, hn, rfl⟩ := Option.map_eq_some_iff.mp hk
      exact leads_ofGrid (neighbour_pos (low_pos hx) hn) _
    · exact leads_zero

variable {sign whole fraction : List Char} {d : Digits}

theorem isNumeral_of_whole (hsign : sign ∈ [[], ['-']]) (hwhole : AreWhole whole)
    (hfraction : AreDigits fraction) : IsNumeral (sign ++ whole ++ '.' :: fraction) :=
  ⟨sign, whole, '.' :: fraction, [], by rw [List.append_nil], hsign, hwhole.1, hwhole.2,
    .inr ⟨fraction, rfl, hfraction⟩, .inl rfl⟩

theorem Leads.whole_take (h : Leads d) {k : Nat} (hk : 0 < k) (hlong : k < d.digits.length) :
    AreWhole (d.digits.take k) := by
  obtain ⟨c, rest, hc⟩ := List.exists_cons_of_ne_nil h.digits.1
  obtain ⟨k, rfl⟩ := Nat.exists_eq_add_one.mpr hk
  refine ⟨⟨by simp [hc], fun c hc => h.digits.2 c (List.mem_of_mem_take hc)⟩, fun hhead => ?_⟩
  rw [hc, List.take_succ_cons, List.head?_cons] at hhead
  have hzero := h.zero (by rw [hc, List.head?_cons, hhead])
  rw [hzero] at hlong
  exact absurd hlong (by simp)

theorem Leads.whole_fill (h : Leads d) :
    AreWhole (d.digits ++ List.replicate (d.exponent.toNat + 1 - d.digits.length) '0') := by
  refine ⟨h.digits.append fun c hc => isDigit_replicate hc, fun hhead => ?_⟩
  rw [List.head?_append_of_ne_nil _ h.digits.1] at hhead
  rw [h.zero hhead]
  rfl

theorem isNumeral_positional (h : Leads d) (hsign : sign ∈ [[], ['-']]) :
    IsNumeral (sign ++ DecimalLayout.positionalText true d) := by
  unfold DecimalLayout.positionalText
  dsimp only
  split
  · have hfraction : AreDigits (List.replicate ((-d.exponent).toNat - 1) '0' ++ d.digits) :=
      ⟨List.append_ne_nil_of_right_ne_nil _ h.digits.1, fun c hc =>
        (List.mem_append.mp hc).elim isDigit_replicate (h.digits.2 c)⟩
    simpa using isNumeral_of_whole hsign areWhole_zero hfraction
  · split
    · next hshort =>
      have hfraction : AreDigits (d.digits.drop (d.exponent.toNat + 1)) :=
        ⟨by simpa using hshort, fun c hc => h.digits.2 c (List.mem_of_mem_drop hc)⟩
      simpa using isNumeral_of_whole hsign (h.whole_take (Nat.succ_pos _) hshort) hfraction
    · have hfraction : AreDigits ['0'] := areWhole_zero.1
      simpa using isNumeral_of_whole hsign h.whole_fill hfraction

theorem isNumeral_scientific (h : Leads d) (hsign : sign ∈ [[], ['-']]) :
    IsNumeral (sign ++ DecimalLayout.scientificText (layout.exponentMark d.exponent) d) := by
  obtain ⟨c, rest, hc⟩ := List.exists_cons_of_ne_nil h.digits.1
  have hdigit : ∀ b ∈ c :: rest, b.isDigit = true := fun b hb => h.digits.2 b (hc ▸ hb)
  obtain ⟨mark, hmark, htext⟩ : ∃ mark, mark ∈ [[], ['+'], ['-']] ∧
      (layout.exponentMark d.exponent).toList = 'e' :: mark := by
    unfold layout
    dsimp only
    split
    · exact ⟨['-'], by decide, rfl⟩
    · exact ⟨['+'], by decide, rfl⟩
  refine ⟨sign, [c], if rest = [] then [] else '.' :: rest,
    'e' :: (mark ++ Nat.toDigits 10 d.exponent.natAbs), ?_, hsign,
    ⟨List.cons_ne_nil _ _, fun b hb => hdigit b (List.mem_singleton.mp hb ▸ List.mem_cons_self)⟩,
    ?_, ?_, .inr ⟨'e', mark, _, rfl, by decide, hmark, areDigits_toDigits _⟩⟩
  · unfold DecimalLayout.scientificText
    rw [hc, htext]
    cases rest <;> simp
  · intro hhead
    rw [Option.some.inj hhead]
  · cases rest with
    | nil => exact .inl rfl
    | cons b rest =>
      exact .inr ⟨b :: rest, rfl, List.cons_ne_nil _ _, fun e he =>
        hdigit e (List.mem_cons_of_mem _ he)⟩

theorem isNumeral_text (n : Number) : IsNumeral n.text.toList := by
  cases n with
  | whole i =>
    rw [text_whole]
    refine ⟨_, Nat.toDigits 10 i.natAbs, [], [], by rw [List.append_nil, List.append_nil], ?_,
      (areWhole_toDigits _).1, (areWhole_toDigits _).2, .inl rfl, .inl rfl⟩
    split <;> decide
  | real x =>
    have hsign : (if x.negative then ['-'] else []) ∈ [[], ['-']] := by split <;> decide
    rw [Number.text, DecimalLayout.write, String.toList_ofList]
    by_cases hpositional : layout.positional x.shortest.exponent = true
    · rw [if_pos hpositional]
      exact isNumeral_positional (leads_shortest x) hsign
    · rw [if_neg hpositional]
      exact isNumeral_scientific (leads_shortest x) hsign

theorem hexValues_control : ∀ n < 0x20,
    Text.hexPadded 4 n = ['0', '0', Nat.digitChar (n / 16), Nat.digitChar (n % 16)] ∧
      Text.hexValue? (Nat.digitChar (n / 16)) = some (n / 16) ∧
      Text.hexValue? (Nat.digitChar (n % 16)) = some (n % 16) := by
  decide

/-- A character is written as what stands for its units. -/
theorem quoted_escapeChar (c : Char) {text : List Nat} {cs rest : List Char}
    (h : Quoted text cs rest) : Quoted (units c ++ text) (escapeChar c ++ cs) rest := by
  unfold escapeChar
  split
  · exact .short '"' 0x22 (by decide) h
  · exact .short '\\' 0x5C (by decide) h
  · exact .short 'b' 0x08 (by decide) h
  · exact .short 't' 0x09 (by decide) h
  · exact .short 'n' 0x0A (by decide) h
  · exact .short 'f' 0x0C (by decide) h
  · exact .short 'r' 0x0D (by decide) h
  · next hquote hslash _ _ _ _ _ =>
    split
    · next hcontrol =>
      obtain ⟨hhex, htens, hones⟩ := hexValues_control c.toNat hcontrol
      have hunits : units c = [((0 * 16 + 0) * 16 + c.toNat / 16) * 16 + c.toNat % 16] := by
        rw [units, if_pos (by omega), Nat.zero_mul, Nat.zero_add, Nat.div_add_mod']
      rw [hunits, hhex]
      exact .unit rfl rfl htens hones h
    · next hcontrol => exact .plain c hquote hslash (Nat.le_of_not_lt hcontrol) h

theorem quoted_chars (s : List Char) {rest : List Char} :
    Quoted (s.flatMap units) (s.flatMap escapeChar ++ '"' :: rest) rest := by
  induction s with
  | nil => exact .close
  | cons c s ih =>
    rw [List.flatMap_cons, List.flatMap_cons, List.append_assoc]
    exact quoted_escapeChar c ih

mutual

/-- What the text of a value means. -/
def meaning : Json → Meaning
  | .null => .word ['n', 'u', 'l', 'l']
  | .bool true => .word ['t', 'r', 'u', 'e']
  | .bool false => .word ['f', 'a', 'l', 's', 'e']
  | .number n => .word n.text.toList
  | .string s => .string (s.toList.flatMap units)
  | .array items => .array (meaningItems items)
  | .object fields => .object (meaningFields fields)

def meaningItems : List Json → List Meaning
  | [] => []
  | v :: rest => meaning v :: meaningItems rest

def meaningFields : List (String × Json) → List (List Nat × Meaning)
  | [] => []
  | (k, v) :: rest => (k.toList.flatMap units, meaning v) :: meaningFields rest

end

theorem parses_string (s : String) (rest : List Char) :
    Parses (.value (.string (s.toList.flatMap units))) (stringChars s ++ rest) rest := by
  rw [stringChars, List.cons_append, List.append_assoc]
  exact .string (quoted_chars s.toList)

theorem itemsChars_cons (v w : Json) (items : List Json) :
    itemsChars (v :: w :: items) = chars v ++ ',' :: itemsChars (w :: items) := by
  rw [itemsChars]
  exact List.cons_ne_nil _ _

theorem fieldsChars_cons (k : String) (v : Json) (e : String × Json)
    (fields : List (String × Json)) :
    fieldsChars ((k, v) :: e :: fields) =
      stringChars k ++ ':' :: (chars v ++ ',' :: fieldsChars (e :: fields)) := by
  rw [fieldsChars]
  exact List.cons_ne_nil _ _

mutual

theorem parses_chars (v : Json) (rest : List Char) :
    Parses (.value (meaning v)) (chars v ++ rest) rest := by
  cases v with
  | null => exact .word (.inl rfl)
  | bool b =>
    cases b with
    | true => exact .word (.inr (.inl rfl))
    | false => exact .word (.inr (.inr (.inl rfl)))
  | number n => exact .word (.inr (.inr (.inr (isNumeral_text n))))
  | string s => exact parses_string s rest
  | array items =>
    rw [meaning, chars, List.cons_append, List.append_assoc, List.singleton_append]
    by_cases hitems : items = []
    · rw [hitems]
      exact .emptyArray .none
    · exact .array (parses_itemsChars items hitems rest)
  | object fields =>
    rw [meaning, chars, List.cons_append, List.append_assoc, List.singleton_append]
    by_cases hfields : fields = []
    · rw [hfields]
      exact .emptyObject .none
    · exact .object (parses_fieldsChars fields hfields rest)

theorem parses_itemsChars (items : List Json) (hitems : items ≠ []) (rest : List Char) :
    Parses (.items (meaningItems items)) (itemsChars items ++ ']' :: rest) rest := by
  cases items with
  | nil => exact absurd rfl hitems
  | cons v items =>
    cases items with
    | nil => exact .lastItem .none (parses_chars v _) .none
    | cons w items =>
      rw [meaningItems, itemsChars_cons, List.append_assoc, List.cons_append]
      exact .item .none (parses_chars v _) .none
        (parses_itemsChars (w :: items) (List.cons_ne_nil _ _) rest)

theorem parses_fieldsChars (fields : List (String × Json)) (hfields : fields ≠ [])
    (rest : List Char) :
    Parses (.fields (meaningFields fields)) (fieldsChars fields ++ '}' :: rest) rest := by
  have hkey : ∀ (k : String) cs,
      stringChars k ++ cs = '"' :: (k.toList.flatMap escapeChar ++ '"' :: cs) := by
    intro k cs
    rw [stringChars, List.cons_append, List.append_assoc, List.singleton_append]
  cases fields with
  | nil => exact absurd rfl hfields
  | cons e fields =>
    obtain ⟨k, v⟩ := e
    cases fields with
    | nil =>
      rw [meaningFields, fieldsChars, List.append_assoc, hkey]
      exact .lastField .none (quoted_chars k.toList) .none .none (parses_chars v _) .none
    | cons e fields =>
      rw [meaningFields, fieldsChars_cons, List.append_assoc, hkey, List.cons_append,
        List.append_assoc, List.cons_append]
      exact .field .none (quoted_chars k.toList) .none .none (parses_chars v _) .none
        (parses_fieldsChars (e :: fields) (List.cons_ne_nil _ _) rest)

end

/-- What is written means what the value means. -/
theorem means_write (v : Json) : Means v.write.toList (meaning v) := by
  rw [write, String.toList_ofList]
  have hparses := parses_chars v []
  rw [List.append_nil] at hparses
  exact ⟨_, _, .none, hparses, .none⟩

end TraceView.Proofs.Json
