import TraceView.Proofs.Text.Utf8
import TraceView.Text.Numeral

/-!
# Decimal numerals

The digits with which a number is written spell it, start with no zero unless there is no other
digit, and are read back as the number.
-/

namespace TraceView.Proofs.Text

open TraceView.Text

/-- The value of digits, the first of which counts most. -/
def digitsTotal (ds : List Nat) : Nat :=
  ds.foldl (fun n d => n * 10 + d) 0

structure Spells (ds : List Nat) (n : Nat) : Prop where
  total : digitsTotal ds = n
  digit : ∀ d ∈ ds, d < 10
  lead : ds = [0] ∨ ∃ d rest, ds = d :: rest ∧ d ≠ 0

variable {ds : List Nat} {n : Nat}

theorem digitsTotal_concat (ds : List Nat) (d : Nat) :
    digitsTotal (ds ++ [d]) = digitsTotal ds * 10 + d := by
  rw [digitsTotal, List.foldl_append, List.foldl_cons, List.foldl_nil, digitsTotal]

theorem Spells.of_lt (h : n < 10) : Spells [n] n where
  total := by simp [digitsTotal]
  digit := by simpa using h
  lead := by
    by_cases hn : n = 0
    · exact .inl (by rw [hn])
    · exact .inr ⟨n, [], rfl, hn⟩

/-- One more digit, after at least one that is not zero. -/
theorem Spells.concat (h : Spells ds (n / 10)) (hn : 10 ≤ n) : Spells (ds ++ [n % 10]) n where
  total := by
    rw [digitsTotal_concat, h.total]
    omega
  digit := by
    intro d hd
    rcases List.mem_append.mp hd with hd | hd
    · exact h.digit d hd
    · rw [List.mem_singleton.mp hd]
      omega
  lead := by
    rcases h.lead with rfl | ⟨d, rest, rfl, hd⟩
    · have : (0 : Nat) = n / 10 := h.total
      omega
    · exact .inr ⟨d, rest ++ [n % 10], rfl, hd⟩

theorem toDigits_spells (n : Nat) :
    ∃ ds, Spells ds n ∧ Nat.toDigits 10 n = ds.map Nat.digitChar := by
  induction n using Nat.strongRecOn with
  | ind n ih =>
    rw [Nat.toDigits_eq_if (by omega)]
    split
    · next h => exact ⟨[n], .of_lt h, rfl⟩
    · next h =>
      obtain ⟨ds, hds, heq⟩ := ih (n / 10) (by omega)
      exact ⟨ds ++ [n % 10], hds.concat (by omega),
        by rw [heq, List.map_append, List.map_singleton]⟩

theorem Spells.ne_nil (h : Spells ds n) : ds ≠ [] := by
  rcases h.lead with rfl | ⟨d, rest, rfl, -⟩ <;> exact List.cons_ne_nil _ _

theorem toNat_digitChar : ∀ d < 10, (Nat.digitChar d).toNat = 0x30 + d := by decide

theorem digitValue?_digitChar : ∀ d < 10, digitValue? (Nat.digitChar d) = some d := by decide

theorem digitsValue?_digitChars (h : ∀ d ∈ ds, d < 10) :
    digitsValue? (ds.map Nat.digitChar) = some (digitsTotal ds) := by
  have hfrom : ∀ ds : List Nat, (∀ d ∈ ds, d < 10) → ∀ m,
      (ds.map Nat.digitChar).foldlM (fun n c => (digitValue? c).map (n * 10 + ·)) m
        = some (ds.foldl (fun n d => n * 10 + d) m) := by
    intro ds
    induction ds with
    | nil => intro _ m; rfl
    | cons d ds ih =>
      intro h m
      rw [List.map_cons, List.foldlM_cons, digitValue?_digitChar d (h d List.mem_cons_self)]
      exact ih (fun d hd => h d (List.mem_cons_of_mem _ hd)) _
  exact hfrom ds h 0

theorem wordValue?_digitChars (hne : ds ≠ []) (h : ∀ d ∈ ds, d < 10)
    (hmax : digitsTotal ds ≤ wordMax) :
    wordValue? (ds.map Nat.digitChar) = some (digitsTotal ds) := by
  have hvalue := digitsValue?_digitChars h
  cases ds with
  | nil => exact (hne rfl).elim
  | cons d rest =>
    unfold wordValue?
    rw [List.map_cons] at hvalue ⊢
    rw [hvalue]
    exact if_pos hmax

theorem digitChar_ne_plus : ∀ d < 10, Nat.digitChar d ≠ '+' := by decide

/-- Digits are read as the number that they spell, zeros in front or not. -/
theorem signedWordValue?_digitChars (hne : ds ≠ []) (h : ∀ d ∈ ds, d < 10)
    (hmax : digitsTotal ds ≤ wordMax) :
    signedWordValue? (ds.map Nat.digitChar) = some (digitsTotal ds) := by
  rw [← wordValue?_digitChars hne h hmax]
  cases ds with
  | nil => exact (hne rfl).elim
  | cons d rest =>
    exact signedWordValue?.eq_2 _ fun ds he =>
      digitChar_ne_plus d (h d List.mem_cons_self) (List.cons.inj he).1

end TraceView.Proofs.Text
