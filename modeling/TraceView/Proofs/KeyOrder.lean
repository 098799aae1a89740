import TraceView.Keyed

/-!
# Maps in key order

Every operation keeps the entries in ascending key order, so a key occurs once and looking it up
finds the entry that a pass over the list meets.
-/
namespace TraceView.Proofs.KeyOrder

open TraceView.Keyed

variable {κ α β : Type}

def Ordered [LT κ] (m : Keyed κ α) : Prop := m.Pairwise (·.1 < ·.1)

section Lookup

variable [DecidableEq κ]

theorem get?_mem {m : Keyed κ α} {k : κ} {v : α} (h : get? m k = some v) : (k, v) ∈ m := by
  induction m with
  | nil => simp at h
  | cons e rest ih =>
    rw [get?] at h
    split at h
    · next he =>
      cases h
      subst he
      exact List.mem_cons_self
    · exact List.mem_cons_of_mem _ (ih h)

theorem get?_mapValues (f : κ → α → β) (m : Keyed κ α) (k : κ) :
    get? (mapValues f m) k = (get? m k).map (f k) := by
  induction m with
  | nil => rfl
  | cons e rest ih =>
    simp only [mapValues, List.map_cons, get?] at ih ⊢
    split
    · next he => simp [he]
    · exact ih

end Lookup

section Passes

variable [LT κ]

theorem ordered_mapValues (f : κ → α → β) {m : Keyed κ α} (h : Ordered m) :
    Ordered (mapValues f m) := by
  simpa [Ordered, mapValues, List.pairwise_map] using h

theorem ordered_erase [DecidableEq κ] {m : Keyed κ α} (h : Ordered m) (k : κ) :
    Ordered (erase m k) :=
  h.filter _

/-- What a pass over the entries of a kind meets is in order. -/
theorem ordered_keys_filter {m : Keyed κ α} (h : Ordered m) (p : κ × α → Bool) :
    (keys (m.filter p)).Pairwise (· < ·) :=
  List.pairwise_map.mpr (h.filter p)

variable [Std.Irrefl (α := κ) (· < ·)]

theorem nodup_keys_filter {m : Keyed κ α} (h : Ordered m) (p : κ × α → Bool) :
    (keys (m.filter p)).Nodup :=
  (ordered_keys_filter h p).imp Std.ne_of_lt

variable [DecidableEq κ]

theorem get?_of_mem {m : Keyed κ α} (h : Ordered m) {k : κ} {v : α} (hm : (k, v) ∈ m) :
    get? m k = some v := by
  induction m with
  | nil => simp at hm
  | cons e rest ih =>
    obtain ⟨hlt, hrest⟩ := List.pairwise_cons.mp h
    rcases List.mem_cons.mp hm with rfl | hm
    · simp [get?]
    · have hne : e.1 ≠ k := Std.ne_of_lt (hlt _ hm)
      rw [get?, if_neg hne]
      exact ih hrest hm

theorem mem_keys_filter {m : Keyed κ α} (h : Ordered m) (p : κ × α → Bool) (k : κ) :
    k ∈ keys (m.filter p) ↔ ∃ v, get? m k = some v ∧ p (k, v) = true := by
  simp only [keys, List.mem_map, List.mem_filter]
  constructor
  · rintro ⟨⟨k', v⟩, ⟨hm, hp⟩, rfl⟩
    exact ⟨v, get?_of_mem h hm, hp⟩
  · rintro ⟨v, hv, hp⟩
    exact ⟨(k, v), ⟨get?_mem hv, hp⟩, rfl⟩

end Passes

section Insertion

variable [DecidableEq κ] [LT κ] [DecidableLT κ]

theorem mem_insert {m : Keyed κ α} {k : κ} {v : α} {e : κ × α} (h : e ∈ Keyed.insert m k v) :
    e = (k, v) ∨ e ∈ m := by
  induction m with
  | nil => simpa [Keyed.insert] using h
  | cons e' rest ih => grind [Keyed.insert]

theorem ordered_insert [LE κ] [Std.IsLinearOrder κ] [Std.LawfulOrderLT κ] {m : Keyed κ α}
    (h : Ordered m) (k : κ) (v : α) : Ordered (Keyed.insert m k v) := by
  induction m with
  | nil => simp [Keyed.insert, Ordered]
  | cons e rest ih =>
    obtain ⟨hlt, hrest⟩ := List.pairwise_cons.mp h
    rw [Keyed.insert]
    split
    · next hk =>
      refine List.pairwise_cons.mpr ⟨fun e' he' => ?_, h⟩
      rcases List.mem_cons.mp he' with rfl | he'
      · exact hk
      · exact Std.lt_trans hk (hlt e' he')
    · next hk =>
      split
      · next he => exact List.pairwise_cons.mpr ⟨fun e' he' => he ▸ hlt e' he', hrest⟩
      · next he =>
        refine List.pairwise_cons.mpr ⟨fun e' he' => ?_, ih hrest⟩
        rcases mem_insert he' with rfl | he'
        · exact Std.lt_of_le_of_ne (Std.not_lt.mp hk) he
        · exact hlt e' he'

section Ascending

variable [LE κ] [Std.IsLinearOrder κ] [Std.LawfulOrderLT κ]

theorem insert_greatest {m : Keyed κ α} {k : κ} (h : ∀ e ∈ m, e.1 < k) (v : α) :
    Keyed.insert m k v = m ++ [(k, v)] := by
  induction m with
  | nil => rfl
  | cons e rest ih =>
    have he := h e List.mem_cons_self
    rw [Keyed.insert, if_neg (Std.not_lt.mpr (Std.le_of_lt he)), if_neg (Std.ne_of_lt he),
      ih fun e he => h e (List.mem_cons_of_mem _ he)]
    rfl

/-- Entries in order are a map as they stand. -/
theorem ofList_of_ordered {m : Keyed κ α} (h : Ordered m) : Keyed.ofList m = m := by
  have hfrom : ∀ rest front : Keyed κ α, Ordered (front ++ rest) →
      rest.foldl (fun m e => Keyed.insert m e.1 e.2) front = front ++ rest := by
    intro rest
    induction rest with
    | nil => intro front _; simp
    | cons e rest ih =>
      intro front h
      have hlt : ∀ e' ∈ front, e'.1 < e.1 := fun e' he' =>
        (List.pairwise_append.mp h).2.2 e' he' e List.mem_cons_self
      rw [List.foldl_cons, insert_greatest hlt, ih _ (by simpa [Ordered] using h)]
      simp
  exact hfrom m [] h

end Ascending

theorem insert_perm {m : Keyed κ α} {k : κ} (h : k ∉ keys m) (v : α) :
    (Keyed.insert m k v).Perm ((k, v) :: m) := by
  induction m with
  | nil => exact .refl _
  | cons e rest ih =>
    simp only [keys, List.map_cons, List.mem_cons, not_or] at h
    rw [Keyed.insert]
    split
    · exact .refl _
    · rw [if_neg (Ne.symm h.1)]
      exact ((ih h.2).cons e).trans (.swap ..)

/-- Nothing is lost among entries of different keys. -/
theorem ofList_perm {entries : List (κ × α)} (h : (keys entries).Nodup) :
    (Keyed.ofList entries).Perm entries := by
  have hfrom : ∀ (entries : List (κ × α)) (m : Keyed κ α), (keys (entries ++ m)).Nodup →
      (entries.foldl (fun m e => Keyed.insert m e.1 e.2) m).Perm (entries ++ m) := by
    intro entries
    induction entries with
    | nil => intro m _; exact .refl _
    | cons e entries ih =>
      intro m h
      simp only [keys, List.cons_append, List.map_cons, List.nodup_cons, List.map_append,
        List.mem_append, not_or] at h
      have hinsert : (Keyed.insert m e.1 e.2).Perm (e :: m) := insert_perm h.1.2 e.2
      have hperm : (entries ++ Keyed.insert m e.1 e.2).Perm (e :: (entries ++ m)) :=
        (hinsert.append_left entries).trans List.perm_middle
      refine (ih _ ((hperm.map _).nodup_iff.mpr ?_)).trans hperm
      simpa [keys] using h
  simpa [Keyed.ofList] using hfrom entries [] (by simpa using h)

theorem ordered_ofList [LE κ] [Std.IsLinearOrder κ] [Std.LawfulOrderLT κ]
    (entries : List (κ × α)) : Ordered (Keyed.ofList entries) := by
  have hfrom : ∀ (entries : List (κ × α)) (m : Keyed κ α), Ordered m →
      Ordered (entries.foldl (fun m e => Keyed.insert m e.1 e.2) m) := by
    intro entries
    induction entries with
    | nil => intro m h; exact h
    | cons e entries ih => intro m h; exact ih _ (ordered_insert h e.1 e.2)
  exact hfrom entries [] .nil

/-- A map is put together again from its entries in any order. -/
theorem ofList_of_perm [LE κ] [Std.IsLinearOrder κ] [Std.LawfulOrderLT κ] {m entries : Keyed κ α}
    (hm : Ordered m) (h : entries.Perm m) : Keyed.ofList entries = m := by
  have hkeys : (keys entries).Nodup :=
    (h.map _).nodup_iff.mpr (List.pairwise_map.mpr (hm.imp Std.ne_of_lt))
  have hperm : (Keyed.ofList entries).Perm m := (ofList_perm hkeys).trans h
  exact hperm.eq_of_pairwise (fun _ _ _ _ hab hba => absurd (Std.lt_trans hab hba) Std.lt_irrefl)
    (ordered_ofList entries) hm

/-- Of two values put under one key the later stays. -/
theorem insert_insert [Std.Irrefl (α := κ) (· < ·)] (m : Keyed κ α) (k : κ) (v w : α) :
    Keyed.insert (Keyed.insert m k v) k w = Keyed.insert m k w := by
  induction m with
  | nil => simp [Keyed.insert, Std.lt_irrefl]
  | cons e rest ih => grind [Keyed.insert, Std.lt_irrefl]

end Insertion

end TraceView.Proofs.KeyOrder
