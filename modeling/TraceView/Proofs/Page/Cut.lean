import Mathlib.Data.List.TakeWhile
import TraceView.Proofs.Text.Occurrence
import TraceView.Text.Occurrence

/-!
# Values in a text

A value stands behind an opening, a tag that is not closed yet, and ends before a character that its
place names. `cut` takes all values out of a text, from its beginning to its end. In a text without
openings there is nothing to cut, and behind a text that ends every value cutting starts anew.
-/
namespace TraceView.Proofs.Page

open TraceView TraceView.Proofs.Text

/-- Where a text has a value: behind a tag that is still open, up to a character. -/
structure Place where
  tag : String
  stop : Char

/-- All that stands before the value. -/
def Place.opening (place : Place) : List Char := '<' :: place.tag.toList

variable {places : List Place} {place : Place} {cs ds : List Char}

/-- The place whose opening the text begins with, and what follows the opening. -/
def opened? (places : List Place) (cs : List Char) : Option (Place × List Char) :=
  places.findSome? fun place => (Text.after? place.opening cs).map (place, ·)

theorem opened?_some {rest : List Char} (h : opened? places cs = some (place, rest)) :
    place ∈ places ∧ cs = place.opening ++ rest := by
  obtain ⟨other, hother, hfound⟩ := List.exists_of_findSome?_eq_some h
  obtain ⟨rest', hrest, hsame⟩ := Option.map_eq_some_iff.mp hfound
  obtain ⟨rfl, rfl⟩ := Prod.mk.inj hsame
  exact ⟨hother, Text.after?_eq_some_iff.mp hrest⟩

theorem opened?_none :
    opened? places cs = none ↔ ∀ place ∈ places, ¬ place.opening <+: cs := by
  rw [opened?, List.findSome?_eq_none_iff]
  refine forall₂_congr fun place _ => ?_
  rw [Option.map_eq_none_iff, Option.eq_none_iff_forall_ne_some]
  exact ⟨fun h ⟨rest, hrest⟩ => h rest (Text.after?_eq_some_iff.mpr hrest.symm),
    fun h rest hrest => h ⟨rest, (Text.after?_eq_some_iff.mp hrest).symm⟩⟩

theorem length_lt_of_opened {rest : List Char} (h : opened? places cs = some (place, rest)) :
    rest.length < cs.length := by
  rw [(opened?_some h).2, Place.opening, List.cons_append, List.length_cons, List.length_append]
  omega

/-- A text without the values in it, and these values. -/
def cut (places : List Place) (cs : List Char) : List Char × List (List Char) :=
  match _found : opened? places cs with
  | some (place, rest) =>
    let (text, values) := cut places (rest.dropWhile (· ≠ place.stop))
    (place.opening ++ text, rest.takeWhile (· ≠ place.stop) :: values)
  | none =>
    match cs with
    | [] => ([], [])
    | c :: cs =>
      let (text, values) := cut places cs
      (c :: text, values)
  termination_by cs.length
  decreasing_by
    · exact (List.length_dropWhile_le _ rest).trans_lt (length_lt_of_opened _found)
    · exact Nat.lt_succ_self _

/-- What is in front of a text whose values are cut out. -/
def ahead (text : List Char) (values : List (List Char)) (r : List Char × List (List Char)) :
    List Char × List (List Char) :=
  (text ++ r.1, values ++ r.2)

theorem cut_opening {rest : List Char} (h : opened? places cs = some (place, rest)) :
    cut places cs = ahead place.opening [rest.takeWhile (· ≠ place.stop)]
      (cut places (rest.dropWhile (· ≠ place.stop))) := by
  rw [cut]
  split
  · next h' =>
    obtain ⟨rfl, rfl⟩ := Prod.mk.inj (Option.some.inj (h.symm.trans h'))
    rfl
  · next h' => simp [h] at h'

theorem cut_cons {c : Char} (h : ∀ place ∈ places, ¬ place.opening <+: c :: cs) :
    cut places (c :: cs) = ahead [c] [] (cut places cs) := by
  rw [cut]
  split
  · next h' => simp [opened?_none.mpr h] at h'
  · rfl

/-- No opening begins in the text, whatever follows it. -/
def Solid (places : List Place) (cs : List Char) : Prop :=
  ∀ s, s ≠ [] → s <:+ cs → ∀ rest, ∀ place ∈ places, ¬ place.opening <+: s ++ rest

theorem Solid.append (h : Solid places cs) (h' : Solid places ds) :
    Solid places (cs ++ ds) := by
  intro s hne hs rest place hplace
  obtain ⟨front, hfront⟩ := hs
  rcases List.append_eq_append_iff.mp hfront with ⟨within, hcs, rfl⟩ | ⟨within, -, hds⟩
  · by_cases hnil : within = []
    · rw [hnil, List.nil_append] at hne ⊢
      exact h' ds hne List.suffix_rfl rest place hplace
    · rw [List.append_assoc]
      exact h within hnil ⟨front, hcs.symm⟩ (ds ++ rest) place hplace
  · exact h' s hne ⟨within, hds.symm⟩ rest place hplace

theorem solid_of_not_mem (h : '<' ∉ cs) : Solid places cs := by
  intro s hne hs rest place _ hpre
  cases s with
  | nil => exact hne rfl
  | cons c s =>
    rw [Place.opening, List.cons_append, List.cons_prefix_cons] at hpre
    exact h (hs.subset (hpre.1 ▸ List.mem_cons_self))

theorem Solid.suffix (h : Solid places cs) (hd : ds <:+ cs) : Solid places ds :=
  fun s hne hs => h s hne (hs.trans hd)

theorem cut_solid (h : Solid places cs) (rest : List Char) :
    cut places (cs ++ rest) = ahead cs [] (cut places rest) := by
  induction cs with
  | nil => rfl
  | cons c cs ih =>
    have hc : ∀ place ∈ places, ¬ place.opening <+: c :: (cs ++ rest) :=
      h _ (List.cons_ne_nil _ _) List.suffix_rfl rest
    rw [List.cons_append, cut_cons hc, ih (h.suffix (List.suffix_cons _ _))]
    rfl

/-- No opening begins with another one. -/
def Apart (places : List Place) : Prop :=
  ∀ place ∈ places, ∀ other ∈ places, place.opening <+: other.opening → place = other

theorem opened?_opening (h : Apart places) (hplace : place ∈ places) (rest : List Char) :
    opened? places (place.opening ++ rest) = some (place, rest) := by
  cases hfound : opened? places (place.opening ++ rest) with
  | none => exact absurd (List.prefix_append _ _) (opened?_none.mp hfound place hplace)
  | some found =>
    obtain ⟨other, rest'⟩ := found
    obtain ⟨hother, hsame⟩ := opened?_some hfound
    have heq : place = other := by
      rcases List.prefix_or_prefix_of_prefix (List.prefix_append place.opening rest)
        (hsame ▸ List.prefix_append other.opening rest') with hpre | hpre
      · exact h place hplace other hother hpre
      · exact (h other hother place hplace hpre).symm
    subst heq
    rw [List.append_cancel_left hsame]

/-- A value is cut out behind the opening of its place. -/
theorem cut_value (h : Apart places) (hplace : place ∈ places) {value : List Char}
    (hvalue : place.stop ∉ value) (rest : List Char) :
    cut places (place.opening ++ (value ++ place.stop :: rest)) =
      ahead place.opening [value] (cut places (place.stop :: rest)) := by
  have hkeep : ∀ c ∈ value, decide (c ≠ place.stop) = true := by
    intro c hc
    rw [decide_eq_true_iff]
    rintro rfl
    exact hvalue hc
  rw [cut_opening (opened?_opening h hplace _), List.takeWhile_append_of_pos hkeep,
    List.dropWhile_append_of_pos hkeep]
  simp

/-- Behind a character that is in no opening, and then those that end values, cutting starts anew,
whatever came before. -/
theorem cut_barrier {mark : Char} {stops : List Char} (h : Apart places)
    (hmark : ∀ place ∈ places, mark ∉ place.opening)
    (hstops : ∀ place ∈ places, place.stop ∈ stops) (hsolid : Solid places (mark :: stops)) :
    ∀ front : List Char, ∃ text values, ∀ rest,
      cut places (front ++ mark :: stops ++ rest) = ahead text values (cut places rest)
  | [] => ⟨mark :: stops, [], cut_solid hsolid⟩
  | c :: front => by
    by_cases hopening : ∃ place ∈ places, place.opening <+: c :: front
    · obtain ⟨place, hplace, left, hleft⟩ := hopening
      have hstop : place.stop ∈ left ++ mark :: stops :=
        List.mem_append_right _ (List.mem_cons_of_mem _ (hstops place hplace))
      obtain ⟨value, after, hsplit, hvalue⟩ := List.eq_append_cons_of_mem hstop
      -- the value ends in what was left of the front, or among the characters behind the mark
      have hafter : ∃ text values, ∀ rest,
          cut places (place.stop :: after ++ rest) = ahead text values (cut places rest) := by
        rcases List.append_eq_append_iff.mp hsplit with ⟨within, -, hend⟩ | ⟨within, hvalue, hend⟩
        · exact ⟨_, [], cut_solid (hsolid.suffix ⟨within, hend.symm⟩)⟩
        · have hshort : within.length < (c :: front).length := by
            rw [← hleft, hvalue, Place.opening, List.cons_append, List.length_cons,
              List.length_append, List.length_append]
            omega
          rw [hend]
          exact cut_barrier h hmark hstops hsolid within
      obtain ⟨text, values, hrest⟩ := hafter
      refine ⟨place.opening ++ text, value :: values, fun rest => ?_⟩
      have hwhole : c :: front ++ mark :: stops ++ rest =
          place.opening ++ (value ++ place.stop :: (after ++ rest)) := by
        rw [← hleft, List.append_assoc, List.append_assoc, ← List.append_assoc left, hsplit]
        simp
      rw [hwhole, cut_value h hplace hvalue, ← List.cons_append, hrest]
      simp [ahead]
    · obtain ⟨text, values, hrest⟩ := cut_barrier h hmark hstops hsolid front
      refine ⟨c :: text, values, fun rest => ?_⟩
      -- an opening that reached over the mark would have the mark in it
      have hc : ∀ place ∈ places, ¬ place.opening <+: c :: (front ++ mark :: stops ++ rest) := by
        intro place hplace hpre
        rw [List.append_assoc, ← List.cons_append] at hpre
        exact hopening ⟨place, hplace, prefix_of_not_mem (hmark place hplace) hpre⟩
      rw [List.cons_append, List.cons_append, cut_cons hc, hrest]
      rfl
  termination_by front => front.length
  decreasing_by
    · exact hshort
    · exact Nat.lt_succ_self _

end TraceView.Proofs.Page
