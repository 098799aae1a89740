import TraceView.Proofs.Binding.FirstLine
import TraceView.Proofs.Binding.LineMark
import TraceView.Proofs.KeyOrder
import TraceView.Proofs.Text.Numeral

/-!
# Where variables are placed

Every variable has one place, with its value as it was: the line that its key names, or the one that
first binds it. The variables of a line keep the order that they came in, that is the order of their
keys. A placement is read back from its object: lines are written as numerals, and no numeral is the
name under which the last line stands.
-/

namespace TraceView.Proofs.Binding

open TraceView TraceView.Binding TraceView.Text TraceView.Proofs.Text TraceView.Proofs.KeyOrder

/-- Line and label of a variable of that key. -/
structure Spotted (text key : String) (line : Nat) (label : String) : Prop where
  unmarked : (∀ m, ¬ Marks key.toList m) →
    label = key ∧ line = (FirstLines.ofText text).lineFor key ∧
      line ≤ (FirstLines.ofText text).lastLine
  /-- A number of 64 bits in ASCII digits counts lines from one. -/
  marked : ∀ m ds, FirstMark key.toList m → m.digits = ds.map Nat.digitChar →
    (∀ d ∈ ds, d < 10) → digitsTotal ds ≤ wordMax → line = digitsTotal ds - 1
  label : ∀ m, FirstMark key.toList m → label ≠ "" ∧
    label = if trimChars (m.before ++ m.rest) = [] then key
      else String.ofList (trimChars (m.before ++ m.rest))

/-- A variable with its label and the line where it is placed. -/
def placed (text : String) (e : String × Json) : Nat × String × Json :=
  let (line, label) := Placement.spot (FirstLines.ofText text) e.1
  (line, label, e.2)

/-- All entries, each with its line. -/
def entriesOf (lines : Keyed Nat (List (String × Json))) : List (Nat × String × Json) :=
  lines.flatMap fun l => l.2.map fun v => (l.1, v)

/-- Each variable is placed once. -/
structure Places (text : String) (values : List (String × Json)) (p : Placement) : Prop where
  spots : ∀ e, Spotted text e.1 (placed text e).1 (placed text e).2.1
  once : (entriesOf p.lines).Perm (values.map (placed text))
  inOrder : ∀ line, p.at? line =
    (values.filter fun e => (placed text e).1 = line).map fun e => (placed text e).2
  /-- The variables of an object come in key order, and those of a line keep it. -/
  keyOrder : Ordered values → ∀ line, ∃ vars, Ordered vars ∧ vars.Sublist values ∧
    p.at? line = vars.map fun e => (placed text e).2
  ascending : Ordered p.lines
  lastLine : p.lastLine = (FirstLines.ofText text).lastLine

def entryOf? : Json → Option (String × Json)
  | .object [e] => some e
  | _ => none

/-- The line of that number with its entries. -/
def lineOf? (field : String × Json) : Option (Nat × List (String × Json)) :=
  match digitsValue? field.1.toList, field.2 with
  | some n, .array items => some (n, items.filterMap entryOf?)
  | _, _ => none

/-- The placement that an object describes. -/
def placementOf? : Json → Option Placement
  | .object fields =>
    match Keyed.get? fields "nlines" with
    | some (.number (.whole n)) => some ⟨Keyed.ofList (fields.filterMap lineOf?), n.toNat⟩
    | _ => none
  | _ => none

/-- The object of a placement keeps it whole. -/
structure Recovers (p : Placement) : Prop where
  distinct : (p.lines.map fun l => toString l.1).Nodup
  apart : "nlines" ∉ p.lines.map fun l => toString l.1
  field : ∀ l ∈ p.lines,
    p.toJson.field? (toString l.1) = some (.array (l.2.map fun v => .object [v]))
  lastLine : p.toJson.field? "nlines" = some (Json.nat p.lastLine)
  read : placementOf? p.toJson = some p

variable {text key : String} {p : Placement} {m : FirstLines}

/-- A key with a fragment has a label: if all else is blank, the key itself. -/
theorem label_ne_empty {mark : LineMark} (h : Marks key.toList mark) : mark.label key ≠ "" := by
  rw [LineMark.label]
  split
  · intro hempty
    rw [hempty] at h
    exact not_marks_nil h
  · next hlabel => exact fun hempty => hlabel (String.ofList_eq_empty_iff.mp hempty)

theorem spotted (text key : String) : Spotted text key
    (Placement.spot (FirstLines.ofText text) key).1
    (Placement.spot (FirstLines.ofText text) key).2 := by
  rw [Placement.spot]
  cases hmark : mark? key.toList with
  | none =>
    have hno := mark?_eq_none_iff.mp hmark
    exact ⟨fun _ => ⟨rfl, rfl, lineFor_le_lastLine text key⟩, fun m _ h => absurd h.marks (hno m),
      fun m h => absurd h.marks (hno m)⟩
  | some mark =>
    have hfirst := mark?_eq_some_iff.mp hmark
    have honly : ∀ m, FirstMark key.toList m → m = mark := by
      intro m h
      rw [mark?_eq_some_iff.mpr h] at hmark
      exact Option.some.inj hmark
    refine ⟨fun hno => absurd hfirst.marks (hno mark), fun m ds h hds hdigit hmax => ?_,
      fun m h => ?_⟩
    · obtain rfl := honly m h
      have hne : ds ≠ [] := by
        rintro rfl
        exact h.marks.digits_ne_nil hds
      show (wordValue? m.digits).getD 0 - 1 = _
      rw [hds, wordValue?_digitChars hne hdigit hmax, Option.getD_some]
    · obtain rfl := honly m h
      exact ⟨label_ne_empty h.marks, rfl⟩

theorem at?_add (m : FirstLines) (p : Placement) (e : String × Json) (line : Nat) :
    (Placement.add m p e).at? line =
      if (Placement.spot m e.1).1 = line then p.at? line ++ [((Placement.spot m e.1).2, e.2)]
      else p.at? line := by
  rw [Placement.at?, Placement.add, Keyed.get?_insert]
  split
  · next hline => rw [hline, Option.getD_some]
  · rfl

theorem at?_foldl_add (text : String) (values : List (String × Json)) (p : Placement) (line : Nat) :
    (values.foldl (Placement.add (FirstLines.ofText text)) p).at? line =
      p.at? line ++
        (values.filter fun e => (placed text e).1 = line).map fun e => (placed text e).2 := by
  induction values generalizing p with
  | nil => simp
  | cons e values ih =>
    rw [List.foldl_cons, ih, at?_add, List.filter_cons]
    by_cases hline : (Placement.spot (FirstLines.ofText text) e.1).1 = line
    · simp [placed, hline]
    · simp [placed, hline]

theorem entriesOf_cons (l : Nat × List (String × Json)) (lines : Keyed Nat (List (String × Json))) :
    entriesOf (l :: lines) = (l.2.map fun v => (l.1, v)) ++ entriesOf lines :=
  List.flatMap_cons

theorem get?_before {lines : Keyed Nat (List (String × Json))} {line : Nat}
    (h : ∀ l ∈ lines, line < l.1) : Keyed.get? lines line = none :=
  Option.eq_none_iff_forall_ne_some.mpr fun _ hget =>
    Nat.lt_irrefl line (h _ (get?_mem hget))

/-- An entry more at a line is an entry more among all. -/
theorem entriesOf_insert {lines : Keyed Nat (List (String × Json))} (h : Ordered lines) (line : Nat)
    (v : String × Json) :
    (entriesOf (Keyed.insert lines line ((Keyed.get? lines line).getD [] ++ [v]))).Perm
      ((line, v) :: entriesOf lines) := by
  induction lines with
  | nil => exact .refl _
  | cons l rest ih =>
    obtain ⟨hlt, hrest⟩ := List.pairwise_cons.mp h
    rw [Keyed.insert]
    split
    · next hfirst =>
      have hnone : Keyed.get? (l :: rest) line = none := get?_before <|
        List.forall_mem_cons.mpr ⟨hfirst, fun l' hl' => Nat.lt_trans hfirst (hlt l' hl')⟩
      rw [hnone]
      exact .refl _
    · split
      · next hsame =>
        subst hsame
        rw [Keyed.get?, if_pos rfl, Option.getD_some, entriesOf_cons, entriesOf_cons,
          List.map_append, List.append_assoc]
        exact List.perm_middle
      · next hother =>
        rw [Keyed.get?, if_neg hother, entriesOf_cons, entriesOf_cons]
        exact ((ih hrest).append_left _).trans List.perm_middle

theorem foldl_add (text : String) (values : List (String × Json)) (p : Placement)
    (h : Ordered p.lines) :
    Ordered (values.foldl (Placement.add (FirstLines.ofText text)) p).lines ∧
      (entriesOf (values.foldl (Placement.add (FirstLines.ofText text)) p).lines).Perm
        (entriesOf p.lines ++ values.map (placed text)) := by
  induction values generalizing p with
  | nil => exact ⟨h, by simp⟩
  | cons e values ih =>
    have hordered : Ordered (Placement.add (FirstLines.ofText text) p e).lines :=
      ordered_insert h _ _
    obtain ⟨hall, hperm⟩ := ih _ hordered
    refine ⟨hall, hperm.trans ?_⟩
    have hone : (entriesOf (Placement.add (FirstLines.ofText text) p e).lines).Perm
        (placed text e :: entriesOf p.lines) := entriesOf_insert h _ _
    exact (hone.append_right _).trans List.perm_middle.symm

theorem lastLine_foldl_add (m : FirstLines) (values : List (String × Json)) (p : Placement) :
    (values.foldl (Placement.add m) p).lastLine = p.lastLine := by
  induction values generalizing p with
  | nil => rfl
  | cons e values ih => exact ih _

theorem places (text : String) (values : List (String × Json)) :
    Places text values (Placement.place text values) := by
  obtain ⟨hascending, hperm⟩ := foldl_add text values ⟨[], (FirstLines.ofText text).lastLine⟩ .nil
  have hline : ∀ line, (Placement.place text values).at? line =
      (values.filter fun e => (placed text e).1 = line).map fun e => (placed text e).2 :=
    at?_foldl_add text values ⟨[], (FirstLines.ofText text).lastLine⟩
  refine ⟨fun e => spotted text e.1, hperm, hline, fun hvalues line => ?_, hascending,
    lastLine_foldl_add _ _ _⟩
  exact ⟨_, hvalues.filter _, List.filter_sublist, hline line⟩

theorem toList_toString (n : Nat) : (toString n).toList = Nat.toDigits 10 n :=
  String.toList_ofList

theorem digitsValue?_toString (n : Nat) : digitsValue? (toString n).toList = some n := by
  obtain ⟨ds, hspells, hdigits⟩ := toDigits_spells n
  rw [toList_toString, hdigits, digitsValue?_digitChars hspells.digit, hspells.total]

theorem toString_inj {n n' : Nat} (h : toString n = toString n') : n = n' := by
  have hvalue := digitsValue?_toString n
  rw [h, digitsValue?_toString] at hvalue
  exact (Option.some.inj hvalue).symm

theorem digitsValue?_nlines : digitsValue? "nlines".toList = none := by decide

theorem nlines_ne_toString (n : Nat) : "nlines" ≠ toString n := by
  intro h
  have hvalue := digitsValue?_toString n
  rw [← h, digitsValue?_nlines] at hvalue
  cases hvalue

/-- The field of a line. -/
def lineField (l : Nat × List (String × Json)) : String × Json :=
  (toString l.1, .array (l.2.map fun v => .object [v]))

theorem lineOf?_lineField (l : Nat × List (String × Json)) : lineOf? (lineField l) = some l := by
  have hentries : (l.2.map fun v => Json.object [v]).filterMap entryOf? = l.2 := by
    rw [List.filterMap_map]
    exact List.filterMap_some
  rw [lineOf?, lineField]
  simp only [digitsValue?_toString, hentries]

theorem recovers (h : Ordered p.lines) : Recovers p := by
  have hdistinct : (p.lines.map fun l => toString l.1).Nodup :=
    List.pairwise_map.mpr (h.imp fun hlt he => Nat.ne_of_lt hlt (toString_inj he))
  have hapart : "nlines" ∉ p.lines.map fun l => toString l.1 := by
    intro hmem
    obtain ⟨l, -, hl⟩ := List.mem_map.mp hmem
    exact nlines_ne_toString l.1 hl.symm
  -- the fields in the order in which they are put in
  let entries := p.lines.map lineField ++ [("nlines", Json.nat p.lastLine)]
  have hjson : p.toJson = .object (Keyed.ofList entries) := rfl
  have hkeys : (Keyed.keys entries).Nodup := by
    have hsplit : Keyed.keys entries = (p.lines.map fun l => toString l.1) ++ ["nlines"] := by
      simp [Keyed.keys, entries, lineField]
    rw [hsplit, List.nodup_append]
    refine ⟨hdistinct, by simp, fun key hkey last hlast he => hapart ?_⟩
    rw [← List.mem_singleton.mp hlast, ← he]
    exact hkey
  have hperm : (Keyed.ofList entries).Perm entries := ofList_perm hkeys
  have hfield : ∀ e ∈ entries, p.toJson.field? e.1 = some e.2 := fun e he =>
    get?_of_mem (ordered_ofList entries) (hperm.mem_iff.mpr he)
  have hlast : p.toJson.field? "nlines" = some (Json.nat p.lastLine) :=
    hfield ("nlines", Json.nat p.lastLine) (by simp [entries])
  have hlines : entries.filterMap lineOf? = p.lines := by
    have hread : lineOf? ∘ lineField = some := funext lineOf?_lineField
    have hnlines : lineOf? ("nlines", Json.nat p.lastLine) = none := by
      simp only [lineOf?, digitsValue?_nlines]
    rw [List.filterMap_append, List.filterMap_map, hread, List.filterMap_some,
      List.filterMap_cons_none hnlines, List.filterMap_nil, List.append_nil]
  refine ⟨hdistinct, hapart, fun l hl => hfield (lineField l) ?_, hlast, ?_⟩
  · exact List.mem_append_left _ (List.mem_map_of_mem hl)
  · have hback : Keyed.ofList ((Keyed.ofList entries).filterMap lineOf?) = p.lines :=
      ofList_of_perm h (hlines ▸ hperm.filterMap lineOf?)
    have hcount : Keyed.get? (Keyed.ofList entries) "nlines" = some (Json.nat p.lastLine) := hlast
    rw [hjson, placementOf?, hcount, hback]
    rfl

/-- Every variable is placed exactly once, and nothing of the placement is lost in its object. -/
theorem place_exact (text : String) (values : List (String × Json)) :
    Places text values (Placement.place text values) ∧
      Recovers (Placement.place text values) :=
  ⟨places text values, recovers (places text values).ascending⟩

end TraceView.Proofs.Binding
