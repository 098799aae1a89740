import Mathlib.Data.List.Basic
import Mathlib.Logic.Function.Defs
import TraceView.Html.Escape
import TraceView.Proofs.Text.Occurrence

/-!
# Escaping is exact

The replacements are made one after another, and a later one could take a character that an earlier
one has put there. None does, so together they are one map of characters. A decoder that reads the
entities gives every text back, also one that had entities in it before it was escaped.
-/
namespace TraceView.Proofs.Html

open TraceView TraceView.Html TraceView.Proofs.Text

theorem entity_of_mem {e : Char × String} (he : e ∈ entities) : entity e.1 = e.2.toList := by
  decide +revert

theorem entity_of_plain {c : Char} (hc : c ∉ entities.map (·.1)) : entity c = [c] := by
  unfold entity
  split
  · exact absurd (by decide) hc
  · exact absurd (by decide) hc
  · exact absurd (by decide) hc
  · exact absurd (by decide) hc
  · exact absurd (by decide) hc
  · rfl

/-- No other ampersand is in an entity than the one it begins with. -/
theorem entity_begins {e : Char × String} (he : e ∈ entities) :
    ∃ name, e.2.toList = '&' :: name ∧ '&' ∉ name := by
  have hshape : ∀ e ∈ entities, e.2.toList = '&' :: e.2.toList.tail ∧ '&' ∉ e.2.toList.tail := by
    decide
  exact ⟨_, hshape e he⟩

theorem entity_cases (c : Char) :
    (∃ e ∈ entities, e.1 = c) ∨ c ∉ entities.map (·.1) := by
  by_cases hc : c ∈ entities.map (·.1)
  · exact .inl (List.mem_map.mp hc)
  · exact .inr hc

/-- One replacement, as a map of characters. -/
def substitute (e : Char × String) (c : Char) : List Char :=
  if c = e.1 then e.2.toList else [c]

def substituteEach (es : List (Char × String)) (cs : List Char) : List Char :=
  es.foldl (fun cs e => cs.flatMap (substitute e)) cs

theorem toList_replaceEach (es : List (Char × String)) (s : String) :
    (es.foldl (fun s e => Text.replace s (String.singleton e.1) e.2) s).toList =
      substituteEach es s.toList := by
  induction es generalizing s with
  | nil => rfl
  | cons e es ih =>
    have hne : String.singleton e.1 ≠ "" := by simp [← String.toList_inj]
    rw [List.foldl_cons, ih, toList_replace hne, String.toList_singleton, replaceFrom_singleton]
    rfl

/-- What becomes of a character does not depend on those around it. -/
theorem substituteEach_eq_flatMap (es : List (Char × String)) (cs : List Char) :
    substituteEach es cs = cs.flatMap fun c => substituteEach es [c] := by
  induction es generalizing cs with
  | nil => exact (List.flatMap_singleton' cs).symm
  | cons e es ih =>
    have hstep : ∀ cs,
        substituteEach (e :: es) cs = substituteEach es (cs.flatMap (substitute e)) := fun _ => rfl
    rw [hstep, ih, List.flatMap_assoc]
    refine List.flatMap_congr fun c _ => ?_
    rw [hstep, List.flatMap_singleton, ← ih]

theorem substituteEach_of_plain {es : List (Char × String)} {c : Char}
    (hc : c ∉ es.map (·.1)) : substituteEach es [c] = [c] := by
  induction es with
  | nil => rfl
  | cons e es ih =>
    rw [List.map_cons, List.mem_cons, not_or] at hc
    have hstep : [c].flatMap (substitute e) = [c] := by
      rw [List.flatMap_singleton, substitute, if_neg hc.1]
    rw [substituteEach, List.foldl_cons, hstep, ← substituteEach, ih hc.2]

theorem toList_escape (s : String) : (escape s).toList = escapeChars s.toList := by
  have hentities : ∀ e ∈ entities, substituteEach entities [e.1] = e.2.toList := by decide
  rw [escape, toList_replaceEach, substituteEach_eq_flatMap, escapeChars]
  refine List.flatMap_congr fun c _ => ?_
  rcases entity_cases c with ⟨e, he, rfl⟩ | hc
  · rw [hentities e he, entity_of_mem he]
  · rw [substituteEach_of_plain hc, entity_of_plain hc]

theorem not_mem_entity {c d : Char} (hd : d ∈ entities.map (·.1)) (hne : d ≠ '&') :
    d ∉ entity c := by
  rcases entity_cases c with ⟨e, he, rfl⟩ | hc
  · have hnone : ∀ e ∈ entities, ∀ f ∈ entities, f.1 ≠ '&' → f.1 ∉ e.2.toList := by decide
    obtain ⟨f, hf, rfl⟩ := List.mem_map.mp hd
    rw [entity_of_mem he]
    exact hnone e he f hf hne
  · rw [entity_of_plain hc, List.mem_singleton]
    rintro rfl
    exact hc hd

theorem not_mem_escape (s : String) {d : Char} (hd : d ∈ entities.map (·.1)) (hne : d ≠ '&') :
    d ∉ (escape s).toList := by
  rw [toList_escape, escapeChars, List.mem_flatMap]
  rintro ⟨c, -, hmem⟩
  exact not_mem_entity hd hne hmem

/-- Every ampersand of an escaped text begins an entity. -/
theorem entity_of_suffix {rest : List Char} : ∀ {cs : List Char},
    '&' :: rest <:+ escapeChars cs → ∃ e ∈ entities, e.2.toList <+: '&' :: rest
  | [], h => by
    obtain ⟨front, h⟩ := h
    exact absurd h (List.append_ne_nil_of_right_ne_nil _ (List.cons_ne_nil _ _))
  | c :: cs, ⟨front, h⟩ => by
    rw [escapeChars, List.flatMap_cons, ← escapeChars] at h
    rcases List.append_eq_append_iff.mp h with ⟨_ | ⟨d, within⟩, hentity, hrest⟩ | ⟨more, -, hrest⟩
    · exact entity_of_suffix ⟨[], hrest⟩
    · obtain ⟨rfl, -⟩ := List.cons.inj hrest
      rcases entity_cases c with ⟨e, he, rfl⟩ | hc
      · obtain ⟨name, hname, hnone⟩ := entity_begins he
        refine ⟨e, he, ?_⟩
        rw [entity_of_mem he, hname] at hentity
        cases front with
        | nil => exact ⟨escapeChars cs, by rw [hrest, hname, hentity]; rfl⟩
        | cons d front =>
          obtain ⟨-, hname⟩ := List.cons.inj hentity
          exact absurd (hname ▸ List.mem_append_right front List.mem_cons_self) hnone
      · rw [entity_of_plain hc] at hentity
        have hmem : '&' ∈ [c] := hentity ▸ List.mem_append_right front List.mem_cons_self
        exact absurd (List.mem_singleton.mp hmem ▸ by decide) hc
    · exact entity_of_suffix ⟨more, hrest.symm⟩

theorem unescapeChars_cons {c : Char} (hc : c ≠ '&') (cs : List Char) :
    unescapeChars (c :: cs) = c :: unescapeChars cs := by
  rw [unescapeChars]
  all_goals exact fun _ h => absurd h hc

theorem unescapeChars_entity (c : Char) (cs : List Char) :
    unescapeChars (entity c ++ cs) = c :: unescapeChars cs := by
  rcases entity_cases c with ⟨e, he, rfl⟩ | hc
  · rw [entity_of_mem he]
    simp only [entities, List.mem_cons, List.not_mem_nil, or_false] at he
    rcases he with rfl | rfl | rfl | rfl | rfl <;> rfl
  · have hamp : c ≠ '&' := by
      rintro rfl
      exact hc (by decide)
    rw [entity_of_plain hc, List.singleton_append, unescapeChars_cons hamp]

theorem unescape_escape (s : String) : unescape (escape s) = s := by
  have hchars : ∀ cs, unescapeChars (escapeChars cs) = cs := by
    intro cs
    induction cs with
    | nil => rfl
    | cons c cs ih => rw [escapeChars, List.flatMap_cons, unescapeChars_entity, ← escapeChars, ih]
  rw [unescape, toList_escape, hchars, String.ofList_toList]

/-- Escaping is the map of all characters at once, it leaves no character that means markup but the
ampersand before an entity, and it is undone by reading the entities. -/
theorem escape_exact :
    (∀ s, escape s = String.ofList (s.toList.flatMap entity) ∧
      (∀ c ∈ ['<', '>', '"', '\''], c ∉ (escape s).toList) ∧
      (∀ rest, '&' :: rest <:+ (escape s).toList → ∃ e ∈ entities, e.2.toList <+: '&' :: rest) ∧
      unescape (escape s) = s) ∧
    Function.Injective escape := by
  have hmarkup : ∀ c ∈ ['<', '>', '"', '\''], c ∈ entities.map (·.1) ∧ c ≠ '&' := by
    simp [entities]
  refine ⟨fun s => ⟨?_, fun c hc => ?_, fun rest h => ?_, unescape_escape s⟩,
    Function.LeftInverse.injective unescape_escape⟩
  · rw [← String.toList_inj, toList_escape, String.toList_ofList, escapeChars]
  · exact not_mem_escape s (hmarkup c hc).1 (hmarkup c hc).2
  · rw [toList_escape] at h
    exact entity_of_suffix h

end TraceView.Proofs.Html
