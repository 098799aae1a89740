import TraceView.Proofs.Binding.Target

/-!
# The scan for assignments is exact

The names that a line assigns are the identifiers before an assignment operator that is no half of a
comparison, from left to right, but for those within an earlier match. The scan also tries places
inside of identifiers. An identifier was refused there before for what follows its operator, and
that is the same from each of its places, so these add nothing.
-/

namespace TraceView.Proofs.Binding

open TraceView TraceView.Binding TraceView.Proofs.Text

/-- A match of the scan: where its name starts, the name, and where its operator ends. -/
structure Found where
  start : Nat
  name : List Char
  stop : Nat

/-- Does a place lie within a match, past its start? -/
def Found.Covers (r : Found) (place : Nat) : Prop := r.start < place ∧ place < r.stop

/-- An identifier that is assigned in a line. It is taken from the first letter or underscore of its
run on, and its operator is no half of a comparison. -/
inductive Occurs : List Char → Found → Prop where
  | mk {before name gap sub op rest : List Char}
      (hfirst : ∀ c ∈ before.rtakeWhile isIdentChar, isIdentStart c = false)
      (hname : IsName name) (hassigns : Assigns gap sub op) (hnext : rest.head? ≠ some '=') :
      Occurs (before ++ (name ++ (gap ++ (sub ++ (op ++ rest)))))
        ⟨before.length, name, before.length + (name ++ (gap ++ (sub ++ op))).length⟩

/-- Matches of the scan, from left to right: those identifiers that are assigned and lie in none
before them. -/
structure Scanned (line : List Char) (found : List Found) : Prop where
  ascending : found.Pairwise (·.start < ·.start)
  exact : ∀ m, m ∈ found ↔ Occurs line m ∧ ∀ r ∈ found, ¬ r.Covers m.start

/-- The match of an assignment at a place where `cs` is what is left of the line. -/
def foundAt (place : Nat) (cs : List Char) (a : Assignment) : Found :=
  ⟨place, a.name, place + (cs.length - a.rest.length)⟩

/-- The scan with the places of its matches. -/
def foundFrom : (place skip : Nat) → List Char → List Found
  | _, _, [] => []
  | place, skip + 1, _ :: cs => foundFrom (place + 1) skip cs
  | place, 0, c :: cs =>
    match assignment? (c :: cs) with
    | none => foundFrom (place + 1) 0 cs
    | some a =>
      if a.compares then foundFrom (place + 1) 0 cs
      else foundAt place (c :: cs) a :: foundFrom (place + 1) (cs.length - a.rest.length) cs

variable {place start : Nat} {before cs text : List Char} {a : Assignment} {c : Char} {m : Found}

theorem names_foundFrom (place skip : Nat) (cs : List Char) :
    (foundFrom place skip cs).map (·.name) = assignedFrom skip cs := by
  fun_induction foundFrom place skip cs with
  | case1 => rw [assignedFrom, List.map_nil]
  | case2 place skip c cs ih => rw [assignedFrom, ih]
  | case3 place c cs h ih => rw [assignedFrom, h, ih]
  | case4 place c cs a h hc ih =>
    rw [assignedFrom, h, ih]
    exact (if_pos hc).symm
  | case5 place c cs a h hc ih =>
    rw [assignedFrom, h, List.map_cons, ih]
    exact (if_neg hc).symm

/-- An assignment takes a part of the text that ends with its operator. -/
theorem assignment?_taken (h : assignment? cs = some a) :
    ∃ c init, cs = c :: (init ++ '=' :: a.rest) := by
  obtain ⟨⟨⟨c, hhead, -⟩, -⟩, gap, sub, op, hassigns, hcs⟩ := assignment?_some h
  obtain ⟨init, hop⟩ := List.getLast?_eq_some_iff.mp (operator_last op hassigns.op)
  obtain ⟨tail, hname⟩ : ∃ tail, a.name = c :: tail := ⟨_, List.eq_cons_of_mem_head? hhead⟩
  refine ⟨c, tail ++ (gap ++ (sub ++ init)), ?_⟩
  rw [hcs, hname, hop]
  simp

theorem foundFrom_drop {skip : Nat} (h : skip ≤ cs.length) :
    foundFrom place skip cs = foundFrom (place + skip) 0 (cs.drop skip) := by
  induction skip generalizing place cs with
  | zero => rfl
  | succ skip ih =>
    cases cs with
    | nil => cases h
    | cons c cs =>
      rw [foundFrom, List.drop_succ_cons, ih (Nat.le_of_succ_le_succ h),
        Nat.add_right_comm, Nat.add_assoc]

theorem foundFrom_miss (h : ∀ a, assignment? (c :: cs) = some a → a.compares = true) :
    foundFrom place 0 (c :: cs) = foundFrom (place + 1) 0 cs := by
  rw [foundFrom]
  split
  · rfl
  · next a ha => rw [if_pos (h a ha)]

theorem foundFrom_hit (h : assignment? cs = some a) (hc : a.compares = false) :
    foundFrom place 0 cs =
      foundAt place cs a :: foundFrom (foundAt place cs a).stop 0 a.rest := by
  obtain ⟨c, init, rfl⟩ := assignment?_taken h
  have hskip : (init ++ '=' :: a.rest).length - a.rest.length = init.length + 1 := by
    rw [List.length_append, List.length_cons]
    omega
  have hdrop : (init ++ '=' :: a.rest).drop (init.length + 1) = a.rest := by
    rw [List.append_cons, List.drop_left' (by simp)]
  have hstop : (foundAt place (c :: (init ++ '=' :: a.rest)) a).stop =
      place + 1 + (init.length + 1) := by
    show place + ((init ++ '=' :: a.rest).length + 1 - a.rest.length) = _
    rw [List.length_append, List.length_cons]
    omega
  rw [hstop, foundFrom, h]
  simp only [hc, Bool.false_eq_true, if_false]
  rw [hskip, foundFrom_drop (by simp), hdrop]

/-- The first place with an assignment: the place, the text there and the assignment. -/
def leftmost? (place : Nat) : List Char → Option (Nat × List Char × Assignment)
  | [] => none
  | c :: cs =>
    match assignment? (c :: cs) with
    | some a => some (place, c :: cs, a)
    | none => leftmost? (place + 1) cs

/-- Searches for the first assignment, again and again, at most `n` times: after a comparison from
one character past its start, after any other match from its end. -/
def search? : (n place : Nat) → List Char → Option (List Found)
  | 0, _, _ => none
  | n + 1, place, cs =>
    match leftmost? place cs with
    | none => some []
    | some (start, text, a) =>
      if a.compares then search? n (start + 1) text.tail
      else (search? n (foundAt start text a).stop a.rest).map (foundAt start text a :: ·)

theorem leftmost?_none (h : leftmost? place cs = none) : foundFrom place 0 cs = [] := by
  induction cs generalizing place with
  | nil => rw [foundFrom]
  | cons c cs ih =>
    rw [leftmost?] at h
    split at h
    · cases h
    · next hnone => rw [foundFrom_miss (by simp [hnone]), ih h]

theorem leftmost?_some (h : leftmost? place cs = some (start, text, a)) :
    assignment? text = some a ∧ text.length ≤ cs.length ∧
      foundFrom place 0 cs = foundFrom start 0 text := by
  induction cs generalizing place with
  | nil => cases h
  | cons c cs ih =>
    rw [leftmost?] at h
    split at h
    · next b hb =>
      cases h
      exact ⟨hb, Nat.le_refl _, rfl⟩
    · next hnone =>
      obtain ⟨htext, hle, hfound⟩ := ih h
      exact ⟨htext, Nat.le_succ_of_le hle, by rw [foundFrom_miss (by simp [hnone]), hfound]⟩

/-- One search for each character of the line, and one more, are enough. -/
theorem search?_eq {n : Nat} (h : cs.length < n) :
    search? n place cs = some (foundFrom place 0 cs) := by
  induction n generalizing place cs with
  | zero => cases h
  | succ n ih =>
    rw [search?]
    split
    · next hnone => rw [leftmost?_none hnone]
    · next start text a hsome =>
      obtain ⟨htext, hle, hfound⟩ := leftmost?_some hsome
      obtain ⟨c, init, rfl⟩ := assignment?_taken htext
      rw [List.length_cons, List.length_append, List.length_cons] at hle
      rw [hfound]
      by_cases hc : a.compares = true
      · rw [if_pos hc, foundFrom_miss (by simp [htext, hc]), List.tail_cons]
        exact ih (by rw [List.length_append, List.length_cons]; omega)
      · rw [if_neg hc, ih (by omega), foundFrom_hit htext (Bool.eq_false_iff.mpr hc)]
        rfl

theorem le_start_of_mem_foundFrom {skip : Nat} (h : m ∈ foundFrom place skip cs) :
    place + skip ≤ m.start := by
  fun_induction foundFrom place skip cs with
  | case1 => cases h
  | case2 place skip c cs ih =>
    have hle := ih h
    omega
  | case3 place c cs _ ih =>
    have hle := ih h
    omega
  | case4 place c cs a _ _ ih =>
    have hle := ih h
    omega
  | case5 place c cs a _ _ ih =>
    rcases List.mem_cons.mp h with rfl | h
    · exact Nat.le_refl _
    · have hle := ih h
      omega

theorem ascending_foundFrom (place skip : Nat) (cs : List Char) :
    (foundFrom place skip cs).Pairwise (·.start < ·.start) := by
  fun_induction foundFrom place skip cs with
  | case1 => exact .nil
  | case2 _ _ _ _ ih => exact ih
  | case3 _ _ _ _ ih => exact ih
  | case4 _ _ _ _ _ _ ih => exact ih
  | case5 place c cs a _ _ ih =>
    refine .cons (fun m hm => ?_) ih
    have hle := le_start_of_mem_foundFrom hm
    have hplace : (foundAt place (c :: cs) a).start = place := rfl
    omega

theorem Occurs.start_lt (h : Occurs text m) : m.start < text.length := by
  obtain ⟨-, hname, -, -⟩ := h
  obtain ⟨c, hhead, -⟩ := hname.start
  rw [List.eq_cons_of_mem_head? hhead]
  simp

/-- What is found at a place is what occurs there. -/
theorem occurs_at_iff : Occurs (before ++ cs) m ∧ m.start = before.length ↔
    (∀ c ∈ before.rtakeWhile isIdentChar, isIdentStart c = false) ∧
      ∃ a, assignment? cs = some a ∧ a.compares = false ∧ m = foundAt before.length cs a := by
  constructor
  · rintro ⟨h, hstart⟩
    generalize hline : before ++ cs = line at h
    obtain @⟨before', name, gap, sub, op, rest, hfirst, hname, hassigns, hnext⟩ := h
    obtain ⟨rfl, rfl⟩ := List.append_inj hline hstart.symm
    refine ⟨hfirst, ⟨name, rest⟩, assignment?_append hname hassigns, ?_, ?_⟩
    · exact Bool.eq_false_iff.mpr fun hc => hnext (compares_iff.mp hc)
    · simp only [foundAt, List.length_append, Found.mk.injEq, true_and]
      omega
  · rintro ⟨hfirst, a, ha, hc, rfl⟩
    obtain ⟨hname, gap, sub, op, hassigns, hcs⟩ := assignment?_some ha
    have hnext : a.rest.head? ≠ some '=' := fun he => by simp [compares_iff.mpr he] at hc
    have hoccurs := Occurs.mk hfirst hname hassigns hnext
    have hstop : (a.name ++ (gap ++ (sub ++ op))).length = cs.length - a.rest.length := by
      rw [hcs]
      simp only [List.length_append]
      omega
    rw [← hcs, hstop] at hoccurs
    exact ⟨hoccurs, rfl⟩

/-- An identifier that began before a place and goes on to it is not assigned: its operator, if it has
one, is half of a comparison. -/
def Settled (before cs : List Char) : Prop :=
  (∃ c ∈ before.rtakeWhile isIdentChar, isIdentStart c = true) →
    ∀ rest, afterTarget? cs = some rest → rest.head? = some '='

theorem Settled.next (h : Settled before (c :: cs))
    (hmiss : ∀ a, assignment? (c :: cs) = some a → a.compares = true) :
    Settled (before ++ [c]) cs := by
  rintro ⟨d, hd, hstart⟩ rest hrest
  by_cases hc : isIdentChar c = true
  · rw [List.rtakeWhile_concat_pos _ _ _ hc] at hd
    rw [← afterTarget?_cons hc] at hrest
    rcases List.mem_append.mp hd with hd | hd
    · exact h ⟨d, hd, hstart⟩ rest hrest
    · obtain rfl := List.mem_singleton.mp hd
      exact compares_iff.mp (hmiss ⟨_, rest⟩ (by rw [assignment?_cons hstart, hrest]; rfl))
  · rw [List.rtakeWhile_concat_neg _ _ _ hc] at hd
    cases hd

/-- After an operator no identifier is under way. -/
theorem settled_concat_eq (before cs : List Char) : Settled (before ++ ['=']) cs := by
  rintro ⟨d, hd, -⟩
  rw [List.rtakeWhile_concat_neg _ _ _ (by decide)] at hd
  cases hd

theorem settled_nil (cs : List Char) : Settled [] cs := by
  rintro ⟨d, hd, -⟩
  cases hd

/-- From a place on, the scan finds what occurs and lies in no match before it. -/
def Finds (before cs : List Char) : Prop := ∀ m,
  m ∈ foundFrom before.length 0 cs ↔ Occurs (before ++ cs) m ∧ before.length ≤ m.start ∧
    ∀ r ∈ foundFrom before.length 0 cs, ¬ r.Covers m.start

theorem finds_nil (before : List Char) : Finds before [] := by
  refine fun m => iff_of_false (by simp [foundFrom]) ?_
  rintro ⟨hoccurs, hle, -⟩
  have hlt := hoccurs.start_lt
  rw [List.append_nil] at hlt
  omega

theorem Finds.miss (hmiss : ∀ a, assignment? (c :: cs) = some a → a.compares = true)
    (h : Finds (before ++ [c]) cs) : Finds before (c :: cs) := by
  intro m
  have hrest := h m
  rw [List.length_append, List.length_singleton, ← List.append_cons] at hrest
  rw [foundFrom_miss hmiss, hrest]
  constructor
  · rintro ⟨hoccurs, hle, hcovers⟩
    exact ⟨hoccurs, Nat.le_of_succ_le hle, hcovers⟩
  · rintro ⟨hoccurs, hle, hcovers⟩
    refine ⟨hoccurs, Nat.lt_of_le_of_ne hle fun he => ?_, hcovers⟩
    obtain ⟨-, a, ha, hc, -⟩ := occurs_at_iff.mp ⟨hoccurs, he.symm⟩
    rw [hmiss a ha] at hc
    cases hc

/-- An identifier that is assigned has not begun before the place where it is found. -/
theorem Settled.first (h : Settled before cs) (ha : assignment? cs = some a)
    (hc : a.compares = false) : ∀ c ∈ before.rtakeWhile isIdentChar, isIdentStart c = false := by
  intro c hmem
  refine Bool.eq_false_iff.mpr fun hstart => ?_
  have hnext := h ⟨c, hmem, hstart⟩ a.rest (afterTarget?_of_assignment? ha)
  rw [compares_iff.mpr hnext] at hc
  cases hc

theorem Finds.hit (hsettled : Settled before cs) (ha : assignment? cs = some a)
    (hc : a.compares = false) {taken : List Char} (hcs : cs = taken ++ a.rest)
    (h : Finds (before ++ taken) a.rest) : Finds before cs := by
  intro m
  have hstop : (before ++ taken).length = (foundAt before.length cs a).stop := by
    show _ = before.length + (cs.length - a.rest.length)
    rw [hcs, List.length_append, List.length_append]
    omega
  have hspan : before.length ≤ (foundAt before.length cs a).stop := Nat.le_add_right ..
  obtain ⟨hhere, -⟩ := occurs_at_iff.mpr ⟨hsettled.first ha hc, a, ha, hc, rfl⟩
  have hrest := h m
  rw [hstop, List.append_assoc, ← hcs] at hrest
  rw [foundFrom_hit ha hc, List.mem_cons, hrest, List.forall_mem_cons]
  constructor
  · rintro (rfl | ⟨hoccurs, hle, hcovers⟩)
    · refine ⟨hhere, Nat.le_refl _, fun hcover => Nat.lt_irrefl _ hcover.1, ?_⟩
      intro r hr hcover
      have hle := le_start_of_mem_foundFrom hr
      have hlt : r.start < before.length := hcover.1
      omega
    · exact ⟨hoccurs, Nat.le_trans hspan hle, fun hcover => Nat.not_lt.mpr hle hcover.2, hcovers⟩
  · rintro ⟨hoccurs, hle, hfree, hcovers⟩
    rcases Nat.eq_or_lt_of_le hle with he | hlt
    · obtain ⟨-, b, hb, -, rfl⟩ := occurs_at_iff.mp ⟨hoccurs, he.symm⟩
      rw [ha] at hb
      cases hb
      exact .inl rfl
    · exact .inr ⟨hoccurs, Nat.not_lt.mp fun hin => hfree ⟨hlt, hin⟩, hcovers⟩

theorem Settled.finds (h : Settled before cs) : Finds before cs := by
  induction hn : cs.length using Nat.strongRecOn generalizing before cs with
  | ind n ih =>
    subst hn
    cases cs with
    | nil => exact finds_nil before
    | cons c cs =>
      by_cases hmiss : ∀ a, assignment? (c :: cs) = some a → a.compares = true
      · exact .miss hmiss (ih cs.length (Nat.lt_succ_self _) (h.next hmiss) rfl)
      · obtain ⟨a, ha, hc⟩ : ∃ a, assignment? (c :: cs) = some a ∧ a.compares = false := by
          simpa using hmiss
        obtain ⟨d, init, hcs⟩ := assignment?_taken ha
        have htaken : c :: cs = (d :: init ++ ['=']) ++ a.rest := by simpa using hcs
        have hlt : a.rest.length < (c :: cs).length := by
          rw [htaken, List.length_append, List.length_append, List.length_singleton]
          omega
        refine .hit h ha hc htaken (ih a.rest.length hlt ?_ rfl)
        rw [← List.append_assoc]
        exact settled_concat_eq (before ++ d :: init) a.rest

theorem scanned_foundFrom (line : List Char) : Scanned line (foundFrom 0 0 line) where
  ascending := ascending_foundFrom 0 0 line
  exact m := by
    have hmem := (settled_nil line).finds m
    rw [List.length_nil, List.nil_append] at hmem
    rw [hmem]
    simp

/-- From `start` up to `stop` an identifier stands before `==`, itself or with a subscript. -/
inductive Compared : List Char → (start stop : Nat) → Prop where
  | mk {before name gap sub rest : List Char} (hname : ∀ c ∈ name, isIdentChar c = true)
      (hgap : AllBlank gap) (hsub : Subscript sub) :
      Compared (before ++ (name ++ (gap ++ (sub ++ '=' :: '=' :: rest)))) before.length
        (before.length + name.length)

theorem Compared.free {line : List Char} {start stop : Nat} (h : Compared line start stop)
    (hm : Occurs line m) (hle : start ≤ m.start) : stop ≤ m.start := by
  obtain @⟨before, name, gap, sub, rest, hname, hgap, hsub⟩ := h
  generalize hline : before ++ (name ++ (gap ++ (sub ++ '=' :: '=' :: rest))) = line at hm
  obtain @⟨before', name', gap', sub', op', rest', -, hname', hassigns, hnext⟩ := hm
  refine Nat.le_of_not_lt fun hlt => ?_
  have hle : before.length ≤ before'.length := hle
  have hlt : before'.length < before.length + name.length := hlt
  -- the match starts within the identifier, so both have the same operator
  have htail := congrArg (List.drop before'.length) hline
  rw [List.drop_left' rfl, List.drop_append, List.drop_of_length_le hle, List.nil_append,
    List.drop_append, show before'.length - before.length - name.length = 0 by omega,
    List.drop_zero] at htail
  have hassigned : Assigns gap sub ['='] := ⟨hgap, hsub, by decide⟩
  have hpart : ∀ c ∈ name.drop (before'.length - before.length), isIdentChar c = true :=
    fun c hc => hname c (List.mem_of_mem_drop hc)
  have hcompared : afterTarget? (name.drop (before'.length - before.length) ++
      (gap ++ (sub ++ (['='] ++ '=' :: rest)))) = some ('=' :: rest) :=
    afterTarget?_append hpart hassigned
  rw [List.singleton_append, htail, afterTarget?_append hname'.chars hassigns] at hcompared
  rw [Option.some.inj hcompared] at hnext
  exact hnext rfl

/-- The scan ends, and finds exactly what is assigned. No part of an identifier that is compared is
among it. -/
theorem assignedNames_exact (line : String) : ∃ found : List Found,
    assignedNames line = found.map (String.ofList ·.name) ∧ Scanned line.toList found ∧
      (∀ n, line.length < n → search? n 0 line.toList = some found) ∧
      ∀ start stop, Compared line.toList start stop →
        ∀ m ∈ found, ¬ (start ≤ m.start ∧ m.start < stop) := by
  have hscanned := scanned_foundFrom line.toList
  refine ⟨foundFrom 0 0 line.toList, ?_, hscanned, fun n hn => ?_, fun start stop h m hm hin => ?_⟩
  · rw [assignedNames, ← names_foundFrom, List.map_map]
    rfl
  · exact search?_eq (by rwa [String.length_toList])
  · have hle := h.free ((hscanned.exact m).mp hm).1 hin.1
    exact Nat.not_lt.mpr hle hin.2

example : assignedNames "a[b == 1] = 9c = d == e; f [0] += g" = ["a", "c", "f"] := by decide

end TraceView.Proofs.Binding
