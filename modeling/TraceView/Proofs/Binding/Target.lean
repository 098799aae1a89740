import TraceView.Binding.Assignment
import TraceView.Proofs.Text.Blank

/-!
# The shape of an assignment

An identifier, blanks, at most one subscript and an operator stand before what is assigned. No
character of one part can begin the next, so a text is taken apart in one way only, and what follows
the operator is the same from each place within the identifier.
-/

namespace TraceView.Proofs.Binding

open TraceView TraceView.Binding TraceView.Text TraceView.Proofs.Text

/-- At most one subscript, with the blanks after it. -/
inductive Subscript : List Char → Prop where
  | none : Subscript []
  | one {inner blanks : List Char} (hinner : ']' ∉ inner) (hblanks : AllBlank blanks) :
      Subscript ('[' :: inner ++ ']' :: blanks)

/-- What stands between an identifier and what is assigned to it. -/
structure Assigns (gap sub op : List Char) : Prop where
  gap : AllBlank gap
  sub : Subscript sub
  op : op ∈ operators

structure IsName (name : List Char) : Prop where
  start : ∃ c, name.head? = some c ∧ isIdentStart c = true
  chars : ∀ c ∈ name, isIdentChar c = true

/-- What follows the operator after the rest of an identifier at the start of `cs`. -/
def afterTarget? (cs : List Char) : Option (List Char) :=
  afterOperator? (afterSubscript (skipBlanks (cs.dropWhile isIdentChar)))

section Target

variable {c : Char} {cs name gap sub op rest : List Char} {p : Char → Bool}

theorem code_of_isIdentChar (h : isIdentChar c = true) : 0x30 ≤ c.toNat ∧ c.toNat ≤ 0x7A := by
  change ((((65 ≤ c.val ∧ c.val ≤ 90 : Bool) || (97 ≤ c.val && c.val ≤ 122)) ||
    (48 ≤ c.val && c.val ≤ 57)) || c = '_') = true at h
  simp only [Bool.or_eq_true, Bool.and_eq_true, decide_eq_true_eq, UInt32.le_iff_toNat_le] at h
  change (((65 ≤ c.toNat ∧ c.toNat ≤ 90) ∨ (97 ≤ c.toNat ∧ c.toNat ≤ 122)) ∨
    (48 ≤ c.toNat ∧ c.toNat ≤ 57)) ∨ c = '_' at h
  rcases h with h | rfl
  · omega
  · decide

theorem isIdentChar_of_blank (h : isBlank c = true) : isIdentChar c = false := by
  obtain ⟨r, hr, hlow, hhigh⟩ := (CharSet.has_iff _ _).mp h
  refine Bool.eq_false_iff.mpr fun hident => ?_
  have hcode := code_of_isIdentChar hident
  have hout : ∀ r ∈ blankChars, r.2 < 0x30 ∨ 0x7A < r.1 := by decide
  have hr := hout r hr
  omega

theorem isIdentChar_of_start (h : isIdentStart c = true) : isIdentChar c = true := by
  simp only [isIdentStart, isIdentChar, Char.isAlphanum, Bool.or_eq_true] at h ⊢
  exact h.imp_left .inl

theorem operator_head (h : op ∈ operators) : ∃ c, op.head? = some c ∧
    isIdentChar c = false ∧ isBlank c = false ∧ c ≠ '[' := by
  simp only [operators, List.mem_cons, List.not_mem_nil, or_false] at h
  rcases h with rfl | rfl | rfl | rfl | rfl | rfl | rfl | rfl <;>
    exact ⟨_, rfl, by decide, by decide, by decide⟩

theorem operator_last : ∀ op ∈ operators, op.getLast? = some '=' := by decide

theorem afterOperator?_iff : afterOperator? cs = some rest ↔ ∃ op ∈ operators, cs = op ++ rest := by
  constructor
  · intro h
    obtain ⟨op, hop, hrest⟩ := List.exists_of_findSome?_eq_some h
    refine ⟨op, hop, ?_⟩
    split at hrest
    · next hpre =>
      obtain ⟨tail, rfl⟩ := List.isPrefixOf_iff_prefix.mp hpre
      rw [List.drop_left' rfl] at hrest
      rw [Option.some.inj hrest]
    · cases hrest
  · rintro ⟨op, hop, rfl⟩
    simp only [operators, List.mem_cons, List.not_mem_nil, or_false] at hop
    rcases hop with rfl | rfl | rfl | rfl | rfl | rfl | rfl | rfl <;> rfl

theorem dropWhile_append_of_head (h : ∀ c ∈ cs, p c = true)
    (hrest : ∀ c, rest.head? = some c → p c = false) : (cs ++ rest).dropWhile p = rest := by
  rw [List.dropWhile_append_of_pos h]
  cases rest with
  | nil => rfl
  | cons c rest => exact List.dropWhile_cons_of_neg (by simp [hrest c rfl])

theorem takeWhile_append_of_head (h : ∀ c ∈ cs, p c = true)
    (hrest : ∀ c, rest.head? = some c → p c = false) : (cs ++ rest).takeWhile p = cs := by
  rw [List.takeWhile_append_of_pos h]
  cases rest with
  | nil => exact List.append_nil cs
  | cons c rest => rw [List.takeWhile_cons_of_neg (by simp [hrest c rfl]), List.append_nil]

theorem skipBlanks_split (cs : List Char) : ∃ gap, AllBlank gap ∧ cs = gap ++ skipBlanks cs :=
  ⟨cs.takeWhile isBlank, fun _ hc => List.mem_takeWhile_imp hc,
    List.takeWhile_append_dropWhile.symm⟩

theorem afterSubscript_split (cs : List Char) :
    ∃ sub, Subscript sub ∧ cs = sub ++ afterSubscript cs := by
  unfold afterSubscript
  split
  · next rest =>
    split
    · next c more hclose =>
      have hinner : rest = rest.takeWhile (· ≠ ']') ++ c :: more := by
        rw [← hclose, List.takeWhile_append_dropWhile]
      obtain rfl : c = ']' := by
        have hhead := List.head?_dropWhile_not (· ≠ ']') rest
        rw [hclose] at hhead
        simpa using hhead
      obtain ⟨blanks, hblanks, hmore⟩ := skipBlanks_split more
      have hfree : ']' ∉ rest.takeWhile (· ≠ ']') := fun hm => by
        simpa using List.mem_takeWhile_imp hm
      refine ⟨_, .one hfree hblanks, ?_⟩
      rw [List.append_assoc, List.cons_append, List.cons_append, ← hmore, ← hinner]
    · exact ⟨[], .none, rfl⟩
  · exact ⟨[], .none, rfl⟩

theorem afterSubscript_append (h : Subscript sub) (hop : op ∈ operators) :
    afterSubscript (sub ++ (op ++ rest)) = op ++ rest := by
  obtain ⟨c, hhead, -, hblank, hbracket⟩ := operator_head hop
  obtain ⟨op, rfl⟩ : ∃ cs, op = c :: cs := ⟨_, List.eq_cons_of_mem_head? hhead⟩
  cases h with
  | none =>
    unfold afterSubscript
    split
    · next hcons => exact absurd (List.cons.inj hcons).1 hbracket
    · rfl
  | @one inner blanks hinner hblanks =>
    have hclose : (inner ++ ']' :: (blanks ++ (c :: op ++ rest))).dropWhile (· ≠ ']') =
        ']' :: (blanks ++ (c :: op ++ rest)) := by
      refine dropWhile_append_of_head (fun d hd => ?_) (by simp)
      simpa using fun he : d = ']' => hinner (he ▸ hd)
    have hblank : skipBlanks (blanks ++ (c :: op ++ rest)) = c :: op ++ rest :=
      dropWhile_append_of_head hblanks (by simpa using hblank)
    rw [List.append_assoc, List.cons_append, List.cons_append, afterSubscript, hclose]
    exact hblank

theorem Assigns.head_sub (h : Assigns gap sub op) (hd : (sub ++ (op ++ rest)).head? = some c) :
    isIdentChar c = false ∧ isBlank c = false := by
  obtain ⟨d, hhead, hident, hblank, -⟩ := operator_head h.op
  cases h.sub with
  | none =>
    rw [List.nil_append, List.head?_append, hhead] at hd
    cases hd
    exact ⟨hident, hblank⟩
  | one =>
    cases hd
    decide

/-- An identifier that is assigned goes no further. -/
theorem Assigns.head (h : Assigns gap sub op)
    (hd : (gap ++ (sub ++ (op ++ rest))).head? = some c) : isIdentChar c = false := by
  cases gap with
  | nil => exact (h.head_sub hd).1
  | cons b gap =>
    cases hd
    exact isIdentChar_of_blank (h.gap _ List.mem_cons_self)

/-- Whatever part of an identifier is left, what follows its operator is found. -/
theorem afterTarget?_append (hname : ∀ c ∈ name, isIdentChar c = true) (h : Assigns gap sub op) :
    afterTarget? (name ++ (gap ++ (sub ++ (op ++ rest)))) = some rest := by
  have hskip : skipBlanks (gap ++ (sub ++ (op ++ rest))) = sub ++ (op ++ rest) :=
    dropWhile_append_of_head h.gap fun d hd => (h.head_sub hd).2
  rw [afterTarget?, dropWhile_append_of_head hname fun d hd => h.head hd, hskip,
    afterSubscript_append h.sub h.op]
  exact afterOperator?_iff.mpr ⟨op, h.op, rfl⟩

theorem afterTarget?_cons (h : isIdentChar c = true) :
    afterTarget? (c :: cs) = afterTarget? cs := by
  rw [afterTarget?, List.dropWhile_cons_of_pos h, afterTarget?]

theorem afterTarget?_some (h : afterTarget? cs = some rest) : ∃ gap sub op, Assigns gap sub op ∧
    cs.dropWhile isIdentChar = gap ++ (sub ++ (op ++ rest)) := by
  obtain ⟨op, hop, hafter⟩ := afterOperator?_iff.mp h
  obtain ⟨gap, hgap, hskip⟩ := skipBlanks_split (cs.dropWhile isIdentChar)
  obtain ⟨sub, hsub, hsplit⟩ := afterSubscript_split (skipBlanks (cs.dropWhile isIdentChar))
  exact ⟨gap, sub, op, ⟨hgap, hsub, hop⟩, by rw [← hafter, ← hsplit, ← hskip]⟩

variable {a : Assignment}

theorem assignment?_cons (h : isIdentStart c = true) : assignment? (c :: cs) =
    (afterTarget? (c :: cs)).map (⟨(c :: cs).takeWhile isIdentChar, ·⟩) :=
  if_pos h

theorem assignment?_append (hname : IsName name) (h : Assigns gap sub op) :
    assignment? (name ++ (gap ++ (sub ++ (op ++ rest)))) = some ⟨name, rest⟩ := by
  obtain ⟨c, hhead, hc⟩ := hname.start
  have hafter : afterTarget? (name ++ (gap ++ (sub ++ (op ++ rest)))) = some rest :=
    afterTarget?_append hname.chars h
  have htake : (name ++ (gap ++ (sub ++ (op ++ rest)))).takeWhile isIdentChar = name :=
    takeWhile_append_of_head hname.chars fun d hd => h.head hd
  obtain ⟨tail, rfl⟩ : ∃ tail, name = c :: tail := ⟨_, List.eq_cons_of_mem_head? hhead⟩
  rw [List.cons_append] at hafter htake ⊢
  rw [assignment?_cons hc, hafter, htake]
  rfl

theorem assignment?_some (h : assignment? cs = some a) : IsName a.name ∧
    ∃ gap sub op, Assigns gap sub op ∧ cs = a.name ++ (gap ++ (sub ++ (op ++ a.rest))) := by
  cases cs with
  | nil => cases h
  | cons c cs =>
    by_cases hc : isIdentStart c = true
    · rw [assignment?_cons hc] at h
      obtain ⟨rest, hafter, rfl⟩ := Option.map_eq_some_iff.mp h
      obtain ⟨gap, sub, op, hassigns, hdrop⟩ := afterTarget?_some hafter
      refine ⟨⟨⟨c, ?_, hc⟩, fun _ hd => List.mem_takeWhile_imp hd⟩, gap, sub, op, hassigns, ?_⟩
      · rw [List.takeWhile_cons_of_pos (isIdentChar_of_start hc)]
        rfl
      · rw [← hdrop, List.takeWhile_append_dropWhile]
    · rw [assignment?, if_neg hc] at h
      cases h

theorem afterTarget?_of_assignment? (h : assignment? cs = some a) :
    afterTarget? cs = some a.rest := by
  obtain ⟨hname, gap, sub, op, hassigns, hcs⟩ := assignment?_some h
  rw [hcs]
  exact afterTarget?_append hname.chars hassigns

theorem compares_iff : a.compares = true ↔ a.rest.head? = some '=' := by
  simp [Assignment.compares]

end Target

end TraceView.Proofs.Binding
