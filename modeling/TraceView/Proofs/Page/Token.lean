import TraceView.Page.Panel
import TraceView.Proofs.Text.Occurrence

/-!
# The token of a page

A token stands in a page where the page has a place for it, and before such a place is always a
character that no token has. So a token that is nowhere else in the page can be exchanged for any
other word by replacing its occurrences, none of which reaches over the border of a place.
-/
namespace TraceView.Proofs.Page

open TraceView TraceView.Page TraceView.Proofs.Text
open TraceView.Html (DisplayFlags Piece writePieces)

/-- The characters that are written for some pieces. -/
def written (flags : DisplayFlags) (token : String) (pieces : List Piece) : List Char :=
  pieces.flatMap fun piece => (piece.write flags token).toList

variable {flags : DisplayFlags} {token other word : String} {pieces more : List Piece}

theorem toList_writePieces (flags : DisplayFlags) (token : String) (pieces : List Piece) :
    (writePieces flags token pieces).toList = written flags token pieces := by
  rw [writePieces, String.toList_join, List.flatMap_map]
  rfl

theorem written_cons (piece : Piece) (pieces : List Piece) :
    written flags token (piece :: pieces) =
      (piece.write flags token).toList ++ written flags token pieces := rfl

theorem written_append (pieces more : List Piece) :
    written flags token (pieces ++ more) =
      written flags token pieces ++ written flags token more :=
  List.flatMap_append

/-- Is the last character of the text one that no token has? -/
def endsFenced (s : String) : Bool :=
  s.toList.getLast?.any fun c => !c.isAlphanum

/-- Every place for the token comes right after markup that ends in a character no token has. -/
inductive Fenced : List Piece → Prop where
  | nil : Fenced []
  | piece {piece rest} (hpiece : piece ≠ .token) (hrest : Fenced rest) : Fenced (piece :: rest)
  | token {s rest} (hend : endsFenced s = true) (hrest : Fenced rest) :
      Fenced (.markup s :: .token :: rest)

theorem Fenced.append (h : Fenced pieces) (h' : Fenced more) : Fenced (pieces ++ more) := by
  induction h with
  | nil => exact h'
  | piece hpiece _ ih => exact .piece hpiece ih
  | token hend _ ih => exact .token hend ih

theorem fenced_of_no_token (h : .token ∉ pieces) : Fenced pieces := by
  induction pieces with
  | nil => exact .nil
  | cons piece rest ih =>
    rw [List.mem_cons, not_or] at h
    exact .piece (Ne.symm h.1) (ih h.2)

theorem endsFenced_iff {s : String} :
    endsFenced s = true ↔ ∃ front c, s.toList = front ++ [c] ∧ c.isAlphanum = false := by
  rw [endsFenced, Option.any_eq_true]
  constructor
  · rintro ⟨c, hlast, hc⟩
    obtain ⟨front, hs⟩ := List.getLast?_eq_some_iff.mp hlast
    exact ⟨front, c, hs, by simpa using hc⟩
  · rintro ⟨front, c, hs, hc⟩
    exact ⟨c, List.getLast?_eq_some_iff.mpr ⟨front, hs⟩, by simpa using hc⟩

theorem write_of_ne {piece : Piece} (h : piece ≠ .token) (flags : DisplayFlags)
    (token other : String) : piece.write flags token = piece.write flags other := by
  cases piece with
  | token => exact absurd rfl h
  | markup | text | data | shown => rfl

section Exchange

variable (hword : ∀ c ∈ token.toList, c.isAlphanum = true)
include hword

/-- An occurrence that begins before some pieces ends before their first place for a token. -/
theorem Fenced.prefix_written (h : Fenced pieces) {front : List Char}
    (hpre : token.toList <+: front ++ written flags token pieces) :
    token.toList <+: front ++ written flags other pieces := by
  induction h generalizing front with
  | nil => exact hpre
  | piece hpiece _ ih =>
    rw [written_cons, ← List.append_assoc] at hpre ⊢
    rw [write_of_ne hpiece flags other token]
    exact ih hpre
  | @token s rest hend _ _ =>
    obtain ⟨before, c, hs, hc⟩ := endsFenced_iff.mp hend
    have hnot : c ∉ token.toList := fun hmem => by simp [hword c hmem] at hc
    have hsplit : ∀ token more, front ++ written flags token (.markup s :: more) =
        (front ++ before) ++ c :: written flags token more := by
      intro token more
      rw [written_cons, Piece.write, hs]
      simp
    rw [hsplit] at hpre ⊢
    -- the occurrence ends before `c`, and up to there both texts are the same
    exact (prefix_of_not_mem hnot hpre).trans (List.prefix_append _ _)

/-- The places for the token are all of its occurrences, if none is in what another token makes of
the page. -/
theorem Fenced.replace_written (h : Fenced pieces) (hne : token.toList ≠ [])
    (hfree : ¬ token.toList <:+: written flags other pieces) :
    Text.replaceFrom token.toList word.toList 0 (written flags token pieces) =
      written flags word pieces := by
  induction h with
  | nil => rfl
  | @piece piece rest hpiece hrest ih =>
    rw [written_cons] at hfree
    rw [written_cons, written_cons, write_of_ne hpiece flags token other, replaceFrom_append]
    · rw [ih fun hin => hfree (hin.trans (List.suffix_append _ _).isInfix),
        write_of_ne hpiece flags word other]
    · rintro s - ⟨front, hfront⟩ hpre
      have hother : token.toList <+: s ++ written flags other rest :=
        hrest.prefix_written hword hpre
      rw [← hfront, List.append_assoc] at hfree
      exact hfree (hother.isInfix.trans (List.suffix_append _ _).isInfix)
  | @token s rest hend hrest ih =>
    obtain ⟨before, c, hs, hc⟩ := endsFenced_iff.mp hend
    have hnot : c ∉ token.toList := fun hmem => by simp [hword c hmem] at hc
    have hsplit : ∀ token, written flags token (.markup s :: .token :: rest) =
        (before ++ [c]) ++ (token.toList ++ written flags token rest) := by
      intro token
      rw [written_cons, written_cons, Piece.write, Piece.write, hs]
    rw [hsplit] at hfree
    rw [hsplit, hsplit, replaceFrom_append, replaceFrom_word hne]
    · refine congrArg _ (congrArg _ (ih fun hin => hfree (hin.trans ?_)))
      exact ((List.suffix_append _ _).trans (List.suffix_append _ _)).isInfix
    · intro s hsne hs hpre
      obtain rfl | ⟨within, rfl, hwithin⟩ := List.suffix_concat_iff.mp hs
      · exact hsne rfl
      rw [List.append_assoc, List.singleton_append] at hpre
      refine hfree (((prefix_of_not_mem hnot hpre).isInfix.trans hwithin.isInfix).trans ?_)
      rw [List.append_assoc]
      exact (List.prefix_append _ _).isInfix

end Exchange

theorem endsFenced_append {s t : String} (h : endsFenced t = true) :
    endsFenced (s ++ t) = true := by
  obtain ⟨front, c, ht, hc⟩ := endsFenced_iff.mp h
  exact endsFenced_iff.mpr ⟨s.toList ++ front, c, by simp [ht], hc⟩

theorem endsFenced_joinLines {lines : List String} {last : String}
    (hlast : lines.getLast? = some last) (h : endsFenced last = true) :
    endsFenced (joinLines lines) = true := by
  obtain ⟨front, rfl⟩ := List.getLast?_eq_some_iff.mp hlast
  by_cases hfront : front = []
  · rw [hfront, joinLines, List.nil_append, String.intercalate_singleton, h]
  · rw [joinLines, String.intercalate_append_of_ne_nil hfront (List.cons_ne_nil _ _),
      String.intercalate_singleton]
    exact endsFenced_append h

theorem token_not_mem_table (grid : Grid) (source : String) : .token ∉ table grid source := by
  have hcell : ∀ row cell, .token ∉ cellPieces row cell := by
    intro row cell
    rw [cellPieces]
    split <;> simp
  have hrows : ∀ rows lines, .token ∉ tableRows lines rows := by
    intro rows
    induction rows with
    | nil => exact fun _ => List.not_mem_nil
    | cons row rest ih =>
      intro lines
      simp [tableRows, rowPieces, hcell, ih]
  simp [table, hrows]

theorem fenced_debugPanel (trace : String) : Fenced (debugPanel trace) :=
  .piece nofun (.piece nofun (.piece nofun (.piece nofun (.piece nofun .nil))))

theorem fenced_footer (interpreter : String) : Fenced (footer interpreter) :=
  .piece nofun (.piece nofun (.piece nofun (.piece nofun (.piece nofun
    (.piece nofun (.piece nofun .nil))))))

theorem fenced_toggleScript : Fenced toggleScript :=
  .token (by decide) (.piece nofun .nil)

theorem fenced_panel (panel : Panel) : Fenced (panelPieces panel) := by
  cases panel with
  | landing => exact .piece nofun .nil
  | trace grid source trace interpreter =>
    have htable : Fenced (table grid source) := fenced_of_no_token (token_not_mem_table grid source)
    exact ((htable.append (fenced_debugPanel trace)).append (fenced_footer interpreter)).append
      fenced_toggleScript
  | failure message interpreter =>
    have hmessage : ∀ {front back}, Fenced [.markup front, .text message, .markup back] :=
      .piece nofun (.piece nofun (.piece nofun .nil))
    exact (hmessage.append (fenced_footer interpreter)).append fenced_toggleScript
  | installPrompt message =>
    exact .piece nofun (.piece nofun (.token (endsFenced_joinLines rfl (by decide))
      (.piece nofun .nil)))

theorem fenced_variables (placement : Binding.Placement) : Fenced (variablesPieces placement) :=
  .piece nofun (.piece nofun
    (.token (by decide) (.piece nofun (.piece nofun (.piece nofun .nil)))))

theorem fenced_scrollScript (line : Nat) : Fenced (scrollScript line) :=
  .token (by decide) (.piece nofun .nil)

theorem fenced_document (p : Preview) : Fenced (document p.body) := by
  have hplaced : Fenced ((p.placed.map variablesPieces).getD []) := by
    cases p.placed with
    | none => exact .nil
    | some placement => exact fenced_variables placement
  have hbody : Fenced p.body := ((fenced_panel _).append hplaced).append (fenced_scrollScript _)
  have hhead : ∀ {front back : String}, endsFenced front = true →
      Fenced [.markup front, .token, .markup back] := fun h => .token h (.piece nofun .nil)
  have hpolicy : endsFenced "script-src 'nonce-" = true := by decide
  exact ((hhead (endsFenced_joinLines rfl (endsFenced_append hpolicy))).append hbody).append
    (hhead (by decide))

/-- Replacing a token that is nowhere else in the page gives the page with another token. -/
theorem replace_token (p : Preview) (htoken : isToken token = true)
    (hfree : Text.contains (p.page flags other) token = false) :
    Text.replace (p.page flags token) token word = p.page flags word := by
  rw [isToken, Bool.and_eq_true, decide_eq_true_iff, List.all_eq_true] at htoken
  obtain ⟨hlength, hword⟩ := htoken
  have hchars : token.toList ≠ [] := by
    intro hnil
    rw [hnil] at hlength
    cases hlength
  rw [Text.contains, ← Bool.not_eq_true, occursIn_iff, Preview.page, toList_writePieces] at hfree
  rw [← String.toList_inj, toList_replace (mt String.toList_eq_nil_iff.mpr hchars), Preview.page,
    Preview.page, toList_writePieces, toList_writePieces,
    (fenced_document p).replace_written hword hchars hfree]

end TraceView.Proofs.Page
