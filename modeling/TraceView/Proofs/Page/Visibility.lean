import TraceView.Editor.Server
import TraceView.Proofs.Html.Escape
import TraceView.Proofs.Page.Cut
import TraceView.Proofs.Page.Token

/-!
# What the token and the toggles change in a page

What is shown is written into a page as values: one for the source column in each row, one for the
debug panel, and a mark in each of the two checkboxes. `blank` finds them in the text of the page,
each by the markup before it, and cuts them out. What is left does not depend on the toggles, and
neither does the number of the values.
-/
namespace TraceView.Proofs.Page

open TraceView TraceView.Page
open TraceView.Html (DisplayFlags Piece Toggle)
open TraceView.Proofs.Text (contains_of_not_mem)

variable {places : List Place} {place : Place} {cs ds : List Char}

/-- Where a page says what is shown. -/
def shownPlaces : List Place :=
  [⟨"td class=\"code-col\" style=\"" ++ sourceStyle, ';'⟩,
    ⟨"div id=\"debug-output\" style=\"display: ", ';'⟩,
    ⟨"input type=\"checkbox\" id=\"cb-show-debug\" ", ' '⟩,
    ⟨"input type=\"checkbox\" id=\"cb-show-source\" ", ' '⟩]

/-- The text of a page without what is shown. -/
def blank (page : String) : String := String.ofList (cut shownPlaces page.toList).1

def valuesOf (page : String) : List String := (cut shownPlaces page.toList).2.map String.ofList

/-- Beginnings of the openings that tell them from all other markup of a page. -/
def heads : List (List Char) :=
  [['<', 't', 'd', ' ', 'c', 'l', 'a', 's', 's', '=', '"', 'c'],
    ['<', 'd', 'i', 'v', ' ', 'i', 'd', '=', '"', 'd'], ['<', 'i', 'n']]

theorem prefix_opening {head cs : List Char} {stop : Char}
    (h : head.isPrefixOf ('<' :: cs) = true) : head <+: Place.opening ⟨String.ofList cs, stop⟩ := by
  rw [Place.opening, String.toList_ofList]
  exact List.isPrefixOf_iff_prefix.mp h

theorem source_opening :
    heads[0] <+: Place.opening ⟨"td class=\"code-col\" style=\"" ++ sourceStyle, ';'⟩ := by
  have htag : heads[0] <+: Place.opening ⟨"td class=\"code-col\" style=\"", ';'⟩ :=
    prefix_opening (by decide)
  rw [Place.opening, String.toList_append, ← List.cons_append]
  exact htag.trans (List.prefix_append _ _)

theorem head_of_shownPlaces : ∀ place ∈ shownPlaces, ∃ head ∈ heads, head <+: place.opening := by
  simp only [shownPlaces, List.forall_mem_cons]
  exact ⟨⟨heads[0], by decide, source_opening⟩, ⟨heads[1], by decide, prefix_opening (by decide)⟩,
    ⟨heads[2], by decide, prefix_opening (by decide)⟩,
    ⟨heads[2], by decide, prefix_opening (by decide)⟩, List.forall_mem_nil _⟩

/-- Neither text begins with the other one. -/
abbrev Differ (cs ds : List Char) : Prop := ¬ cs <+: ds ∧ ¬ ds <+: cs

theorem Differ.extend {cs' ds' : List Char} (h : Differ cs ds) (hc : cs <+: cs') (hd : ds <+: ds') :
    Differ cs' ds' :=
  ⟨fun hpre => (List.prefix_or_prefix_of_prefix (hc.trans hpre) hd).elim h.1 h.2,
    fun hpre => (List.prefix_or_prefix_of_prefix hc (hd.trans hpre)).elim h.1 h.2⟩

theorem differ_openings {stop stop' : Char} (h : ¬ cs <+: ds) (h' : ¬ ds <+: cs) :
    Differ (Place.opening ⟨String.ofList cs, stop⟩) (Place.opening ⟨String.ofList ds, stop'⟩) := by
  rw [Place.opening, Place.opening, String.toList_ofList, String.toList_ofList]
  exact ⟨fun hpre => h (List.cons_prefix_cons.mp hpre).2,
    fun hpre => h' (List.cons_prefix_cons.mp hpre).2⟩

theorem apart_cons (h : Apart places)
    (hplace : ∀ other ∈ places, Differ place.opening other.opening) : Apart (place :: places) := by
  intro p hp q hq hpre
  rcases List.mem_cons.mp hp with rfl | hp' <;> rcases List.mem_cons.mp hq with rfl | hq'
  · rfl
  · exact absurd hpre (hplace q hq').1
  · exact absurd hpre (hplace p hp').2
  · exact h p hp' q hq' hpre

theorem apart_shownPlaces : Apart shownPlaces := by
  have hdebug : Differ heads[0] heads[1] := by decide
  have hbox : Differ heads[0] heads[2] := by decide
  have hsource : ∀ {head place}, Differ heads[0] head → head <+: Place.opening place →
      Differ (Place.opening ⟨"td class=\"code-col\" style=\"" ++ sourceStyle, ';'⟩) place.opening :=
    fun h => h.extend source_opening
  refine apart_cons (apart_cons (apart_cons (apart_cons nofun nofun) ?_) ?_) ?_
  all_goals simp only [List.forall_mem_cons]
  · exact ⟨differ_openings (by decide) (by decide), List.forall_mem_nil _⟩
  · exact ⟨differ_openings (by decide) (by decide), differ_openings (by decide) (by decide),
      List.forall_mem_nil _⟩
  · exact ⟨hsource hdebug (prefix_opening (by decide)), hsource hbox (prefix_opening (by decide)),
      hsource hbox (prefix_opening (by decide)), List.forall_mem_nil _⟩

/-- Does no tag of the text begin as one of the openings does? -/
def clear : List Char → Bool
  | [] => true
  | c :: cs =>
    heads.all (fun head => !head.isPrefixOf (c :: cs) && !(c :: cs).isPrefixOf head) && clear cs

theorem clear_suffix (h : clear cs = true) (hd : ds <:+ cs) : clear ds = true := by
  induction cs with
  | nil => rw [List.suffix_nil.mp hd]; rfl
  | cons c cs ih =>
    rcases List.suffix_cons_iff.mp hd with rfl | hd
    · exact h
    · exact ih (Bool.and_eq_true_iff.mp h).2 hd

theorem solid_of_clear (h : clear cs = true) : Solid shownPlaces cs := by
  intro s hne hs rest place hplace hpre
  obtain ⟨head, hhead, hopening⟩ := head_of_shownPlaces place hplace
  obtain ⟨c, s, rfl⟩ := List.exists_cons_of_ne_nil hne
  have hhere := (Bool.and_eq_true_iff.mp (clear_suffix h hs)).1
  have hnot := List.all_eq_true.mp hhere head hhead
  simp only [Bool.and_eq_true, Bool.not_eq_true', ← Bool.not_eq_true,
    List.isPrefixOf_iff_prefix] at hnot
  rcases List.prefix_or_prefix_of_prefix (hopening.trans hpre) (List.prefix_append _ _) with h | h
  · exact hnot.1 h
  · exact hnot.2 h

/-- A text that is written out, as the list of its characters. -/
theorem solid_literal {cs : List Char} (h : clear cs = true) :
    Solid shownPlaces (String.ofList cs).toList := by
  rw [String.toList_ofList]
  exact solid_of_clear h

/-- Without these values what is written is the same text for all flags. -/
def SameText (write : DisplayFlags → List Char) (values : DisplayFlags → List (List Char)) : Prop :=
  ∃ text, ∀ flags rest,
    cut shownPlaces (write flags ++ rest) = ahead text (values flags) (cut shownPlaces rest)

variable {write write' : DisplayFlags → List Char}
  {values values' : DisplayFlags → List (List Char)}

theorem sameText_solid (h : Solid shownPlaces cs) : SameText (fun _ => cs) fun _ => [] :=
  ⟨cs, fun _ => cut_solid h⟩

theorem SameText.append (h : SameText write values) (h' : SameText write' values') :
    SameText (fun flags => write flags ++ write' flags)
      fun flags => values flags ++ values' flags := by
  obtain ⟨text, hcut⟩ := h
  obtain ⟨text', hcut'⟩ := h'
  refine ⟨text ++ text', fun flags rest => ?_⟩
  rw [List.append_assoc, hcut, hcut']
  simp [ahead]

/-- A value may be any text without the character that ends it. -/
theorem sameText_value (hplace : place ∈ shownPlaces) (hvalue : ∀ flags, place.stop ∉ write flags)
    (h : SameText (fun flags => place.stop :: write' flags) values) :
    SameText (fun flags => place.opening ++ (write flags ++ place.stop :: write' flags))
      fun flags => write flags :: values flags := by
  obtain ⟨text, hcut⟩ := h
  refine ⟨place.opening ++ text, fun flags rest => ?_⟩
  rw [List.append_assoc, List.append_assoc, List.cons_append,
    cut_value apart_shownPlaces hplace (hvalue flags), ← List.cons_append, hcut]
  simp [ahead]

/-- The value of a piece that depends on the flags. -/
def value? (flags : DisplayFlags) : Piece → Option (List Char)
  | .shown toggle on off => some (if flags.get toggle then on else off).toList
  | _ => none

def shownValues (flags : DisplayFlags) (pieces : List Piece) : List (List Char) :=
  pieces.filterMap (value? flags)

variable {token : String} {pieces more : List Piece}

/-- Every piece that depends on the flags is right behind the opening of a place, and what ends its
value comes right after it. -/
inductive Marked : List Piece → Prop where
  | nil : Marked []
  | text {s rest} (hrest : Marked rest) : Marked (.text s :: rest)
  | markup {s rest} (hs : Solid shownPlaces s.toList) (hrest : Marked rest) :
      Marked (.markup s :: rest)
  | shown {place : Place} {front s m : String} {toggle on off rest}
      (hplace : place ∈ shownPlaces) (hfront : Solid shownPlaces front.toList)
      (hs : s.toList = front.toList ++ place.opening)
      (hvalue : ∀ value ∈ [on, off], place.stop ∉ value.toList) (hm : [place.stop] <+: m.toList)
      (hrest : Marked (.markup m :: rest)) :
      Marked (.markup s :: .shown toggle on off :: .markup m :: rest)

theorem Marked.append (h : Marked pieces) (h' : Marked more) : Marked (pieces ++ more) := by
  induction h with
  | nil => exact h'
  | text _ ih => exact .text ih
  | markup hs _ ih => exact .markup hs ih
  | shown hplace hfront hs hvalue hm _ ih => exact .shown hplace hfront hs hvalue hm ih

theorem solid_escape (s : String) : Solid shownPlaces (Html.escape s).toList :=
  solid_of_not_mem (Html.not_mem_escape s (by decide) (by decide))

theorem Marked.sameText (h : Marked pieces) (token : String) :
    SameText (fun flags => written flags token pieces) fun flags => shownValues flags pieces := by
  induction h with
  | nil => exact sameText_solid (solid_of_not_mem List.not_mem_nil)
  | @text s rest _ ih => exact (sameText_solid (solid_escape s)).append ih
  | markup hs _ ih => exact (sameText_solid hs).append ih
  | @shown place front s m toggle on off rest hplace hfront hs hvalue hm _ ih =>
    obtain ⟨m', hm⟩ := hm
    let value (flags : DisplayFlags) := (if flags.get toggle then on else off).toList
    have hstop : ∀ flags, written flags token (.markup m :: rest) =
        place.stop :: (m' ++ written flags token rest) := by
      intro flags
      rw [written_cons, Piece.write, ← hm, List.append_assoc, List.singleton_append]
    have hsplit : ∀ flags,
        written flags token (.markup s :: .shown toggle on off :: .markup m :: rest) =
          front.toList ++ (place.opening ++ (value flags ++ place.stop ::
            (m' ++ written flags token rest))) := by
      intro flags
      rw [written_cons, written_cons, hstop, Piece.write, Piece.write, hs, List.append_assoc]
    have hfree : ∀ flags, place.stop ∉ value flags := by
      intro flags
      refine hvalue _ ?_
      split
      · exact List.mem_cons_self
      · exact List.mem_cons_of_mem _ List.mem_cons_self
    simp only [hstop] at ih
    simp only [hsplit]
    exact (sameText_solid hfront).append (sameText_value hplace hfree ih)

theorem solid_append {s t : String} (hs : Solid shownPlaces s.toList)
    (ht : Solid shownPlaces t.toList) : Solid shownPlaces (s ++ t).toList := by
  rw [String.toList_append]
  exact hs.append ht

theorem toList_behind {l front tag : List Char} (h : l = front ++ '<' :: tag) :
    (String.ofList l).toList =
      (String.ofList front).toList ++ '<' :: (String.ofList tag).toList := by
  rw [String.toList_ofList, String.toList_ofList, String.toList_ofList, h]

theorem prefix_literal : cs <+: (String.ofList (cs ++ ds)).toList := by
  rw [String.toList_ofList]
  exact List.prefix_append _ _

theorem prefix_append {s t : String} (h : cs <+: s.toList) : cs <+: (s ++ t).toList := by
  rw [String.toList_append]
  exact h.trans (List.prefix_append _ _)

theorem solid_toString (n : Nat) : Solid shownPlaces (toString n).toList := by
  refine solid_of_not_mem fun hmem => ?_
  have hdigits : (toString n).toList = Nat.toDigits 10 n := String.toList_ofList
  rw [hdigits] at hmem
  exact absurd (Nat.isDigit_of_mem_toDigits (by decide) (by decide) hmem) (by decide)

theorem solid_cellColor (row : Row) (cell : Cell) :
    Solid shownPlaces (cellColor row cell).toList := by
  have hpalette : ∀ color ∈ neutral :: palette, '<' ∉ color.toList := by decide
  refine solid_of_not_mem (hpalette _ ?_)
  rw [cellColor]
  split
  · exact List.mem_cons_self
  · have hcolumn : cell.column % palette.length < palette.length := Nat.mod_lt _ (by decide)
    rw [columnColor, List.getD_eq_getElem?_getD, List.getElem?_eq_getElem hcolumn]
    exact List.mem_cons_of_mem _ (List.getElem_mem _)

theorem Marked.literal {cs : List Char} (h : clear cs = true) (hrest : Marked pieces) :
    Marked (.markup (String.ofList cs) :: pieces) :=
  .markup (solid_literal h) hrest

theorem marked_cell (row : Row) (cell : Cell) : Marked (cellPieces row cell) := by
  have hstyle : Solid shownPlaces cellStyle.toList :=
    solid_append (solid_literal (by decide +kernel)) (solid_literal (by decide +kernel))
  rw [cellPieces]
  refine .markup (solid_append (solid_append (solid_append (solid_append (solid_append (solid_append
    (solid_append (solid_append (solid_literal (by decide +kernel)) (solid_toString cell.span))
      (solid_literal (by decide +kernel))) (solid_toString cell.column))
      (solid_literal (by decide +kernel))) hstyle) (solid_literal (by decide +kernel)))
      (solid_cellColor row cell)) (solid_literal (by decide +kernel))) ?_
  split
  · exact .literal (by decide +kernel) (.literal (by decide +kernel) .nil)
  · exact .text (.literal (by decide +kernel) .nil)

theorem marked_row (line : String) (row : Row) : Marked (rowPieces line row) := by
  have hcells : ∀ cells : List Cell, Marked (cells.flatMap (cellPieces row)) := by
    intro cells
    induction cells with
    | nil => exact .nil
    | cons cell cells ih => exact (marked_cell row cell).append ih
  have hfront : "<tr><td class=\"code-col\" style=\"".toList =
      "<tr>".toList ++ '<' :: "td class=\"code-col\" style=\"".toList := toList_behind rfl
  have hopening : ("<tr><td class=\"code-col\" style=\"" ++ sourceStyle).toList = "<tr>".toList ++
      Place.opening ⟨"td class=\"code-col\" style=\"" ++ sourceStyle, ';'⟩ := by
    rw [Place.opening, String.toList_append, String.toList_append, hfront, List.append_assoc,
      List.cons_append]
  rw [rowPieces]
  refine Marked.append (.append ?_ (hcells row.cells)) (.literal (by decide +kernel) .nil)
  exact .shown (.head _) (solid_literal (by decide +kernel)) hopening (by decide) prefix_literal
    (.literal (by decide +kernel) (.text (.literal (by decide +kernel) .nil)))

theorem marked_table (grid : Grid) (source : String) : Marked (table grid source) := by
  have hrows : ∀ (rows : List Row) (lines : List String), Marked (tableRows lines rows) := by
    intro rows
    induction rows with
    | nil => exact fun _ => .nil
    | cons row rows ih => exact fun lines => (marked_row _ row).append (ih _)
  refine Marked.append (.append (.markup ?_ .nil) (hrows _ _)) (.literal (by decide +kernel) .nil)
  exact solid_append (solid_literal (by decide +kernel)) (solid_literal (by decide +kernel))

theorem marked_debugPanel (trace : String) : Marked (debugPanel trace) := by
  have hopening : "<div id=\"debug-output\" style=\"display: ".toList =
      "".toList ++ '<' :: "div id=\"debug-output\" style=\"display: ".toList := toList_behind rfl
  refine .shown (.tail _ (.head _)) (solid_literal (by decide +kernel)) hopening (by decide)
    (prefix_append (prefix_append prefix_literal))
    (.markup ?_ (.text (.literal (by decide +kernel) .nil)))
  exact solid_append (solid_append (solid_literal (by decide +kernel))
    (solid_literal (by decide +kernel))) (solid_literal (by decide +kernel))

theorem toList_append_behind {s t front : String} {place : Place}
    (h : t.toList = front.toList ++ place.opening) :
    (s ++ t).toList = (s ++ front).toList ++ place.opening := by
  rw [String.toList_append, String.toList_append, h, List.append_assoc]

theorem marked_footer (interpreter : String) : Marked (footer interpreter) := by
  have hlabel : Solid shownPlaces "<label style=\"cursor: pointer;\">".toList :=
    solid_literal (by decide +kernel)
  have hdebug :
      "<label style=\"cursor: pointer;\"><input type=\"checkbox\" id=\"cb-show-debug\" ".toList =
        "<label style=\"cursor: pointer;\">".toList ++
          '<' :: "input type=\"checkbox\" id=\"cb-show-debug\" ".toList := toList_behind rfl
  have hsource :
      "<label style=\"cursor: pointer;\"><input type=\"checkbox\" id=\"cb-show-source\" ".toList =
        "<label style=\"cursor: pointer;\">".toList ++
          '<' :: "input type=\"checkbox\" id=\"cb-show-source\" ".toList := toList_behind rfl
  refine .markup ?_ (.text (.shown (.tail _ (.tail _ (.head _))) ?_ (toList_append_behind hdebug)
    (by decide) (prefix_append prefix_literal) (.shown (.tail _ (.tail _ (.tail _ (.head _)))) ?_
      (toList_append_behind hsource) (by decide) prefix_literal
      (.literal (by decide +kernel) .nil))))
  · exact solid_append (solid_append (solid_literal (by decide +kernel))
      (solid_literal (by decide +kernel))) (solid_literal (by decide +kernel))
  · exact solid_append (solid_literal (by decide +kernel)) hlabel
  · exact solid_append (solid_literal (by decide +kernel)) hlabel

/-- No piece depends on the flags. -/
def Steady (pieces : List Piece) : Prop :=
  ∀ flags, shownValues flags pieces = []

theorem Steady.append (h : Steady pieces) (h' : Steady more) : Steady (pieces ++ more) := by
  intro flags
  rw [shownValues, List.filterMap_append, ← shownValues, ← shownValues, h, h', List.append_nil]

theorem Steady.written_eq (h : Steady pieces) (flags flags' : DisplayFlags) (token : String) :
    written flags token pieces = written flags' token pieces := by
  refine List.flatMap_congr fun piece hpiece => ?_
  have hnone : value? flags piece = none := List.filterMap_eq_nil_iff.mp (h flags) piece hpiece
  cases piece with
  | shown => cases hnone
  | markup | text | data | token => rfl

theorem steady_toggleScript : Steady toggleScript := fun _ => rfl

theorem steady_installPrompt (message : String) : Steady (installPrompt message) := fun _ => rfl

theorem steady_scrollScript (line : Nat) : Steady (scrollScript line) := fun _ => rfl

theorem steady_placed (placed : Option Binding.Placement) :
    Steady ((placed.map variablesPieces).getD []) := by
  cases placed with
  | none => exact fun _ => rfl
  | some placement => exact fun _ => rfl

/-- All that depends on the flags is at the beginning of a panel. -/
theorem panel_split (panel : Panel) :
    ∃ pieces tail, panelPieces panel = pieces ++ tail ∧ Marked pieces ∧ Steady tail := by
  cases panel with
  | landing => exact ⟨[], landing, rfl, .nil, fun _ => rfl⟩
  | trace grid source trace interpreter =>
    have hmarked : Marked (table grid source ++ debugPanel trace ++ footer interpreter) :=
      ((marked_table grid source).append (marked_debugPanel trace)).append
        (marked_footer interpreter)
    exact ⟨_, toggleScript, rfl, hmarked, steady_toggleScript⟩
  | failure message interpreter =>
    refine ⟨_, toggleScript, rfl, .append (.markup ?_ (.text (.literal ?_ .nil)))
      (marked_footer interpreter), steady_toggleScript⟩
    · exact solid_append (solid_literal (by decide +kernel)) (solid_literal (by decide +kernel))
    · decide +kernel
  | installPrompt message =>
    exact ⟨[], installPrompt message, rfl, .nil, steady_installPrompt message⟩

theorem solid_joinLines {lines : List String} (h : ∀ line ∈ lines, Solid shownPlaces line.toList) :
    Solid shownPlaces (joinLines lines).toList := by
  induction lines with
  | nil => exact solid_literal rfl
  | cons line lines ih =>
    rw [List.forall_mem_cons] at h
    cases lines with
    | nil => exact h.1
    | cons next lines =>
      rw [joinLines, String.intercalate_cons_cons]
      exact solid_append (solid_append h.1 (solid_literal (by decide))) (ih h.2)

theorem prefix_joinLines {line : String} {lines : List String} (h : cs <+: line.toList) :
    cs <+: (joinLines (line :: lines)).toList := by
  cases lines with
  | nil => exact h
  | cons next lines =>
    rw [joinLines, String.intercalate_cons_cons]
    exact prefix_append (prefix_append h)

theorem not_mem_literal {c : Char} (h : c ∉ cs) : c ∉ (String.ofList cs).toList := by
  rwa [String.toList_ofList]

theorem not_mem_append {c : Char} {s t : String} (hs : c ∉ s.toList) (ht : c ∉ t.toList) :
    c ∉ (s ++ t).toList := by
  rw [String.toList_append, List.mem_append, not_or]
  exact ⟨hs, ht⟩

theorem apostrophe_not_mem_opening : ∀ place ∈ shownPlaces, '\'' ∉ place.opening := by
  have hstyle : '\'' ∉ sourceStyle.toList :=
    not_mem_append (not_mem_literal (by decide +kernel)) (not_mem_literal (by decide +kernel))
  have hsource : '\'' ∉ ("td class=\"code-col\" style=\"" ++ sourceStyle).toList :=
    not_mem_append (not_mem_literal (by decide +kernel)) hstyle
  have hopening : ∀ {place : Place}, '\'' ∉ place.tag.toList → '\'' ∉ place.opening :=
    fun h hmem => (List.mem_cons.mp hmem).elim (by decide) h
  simp only [shownPlaces, List.forall_mem_cons]
  exact ⟨hopening hsource, hopening (not_mem_literal (by decide +kernel)),
    hopening (not_mem_literal (by decide +kernel)), hopening (not_mem_literal (by decide +kernel)),
    List.forall_mem_nil _⟩

/-- The token in the head may be any word: behind the quotation mark that follows it cutting starts
anew. -/
theorem sameText_head (front : List Char) {back : String} (hback : Solid shownPlaces back.toList)
    (hmark : ['\'', ';', ' '] <+: back.toList) :
    ∃ found, SameText (fun _ => front ++ back.toList) fun _ => found := by
  obtain ⟨cs, hcs⟩ := hmark
  have hstops : ∀ place ∈ shownPlaces, place.stop ∈ [';', ' '] := by decide
  have hsolid : Solid shownPlaces ['\'', ';', ' '] := solid_of_not_mem (by decide)
  obtain ⟨text, found, hcut⟩ :=
    cut_barrier apart_shownPlaces apostrophe_not_mem_opening hstops hsolid front
  rw [← hcs] at hback ⊢
  rw [← List.append_assoc]
  exact ⟨_, SameText.append ⟨text, fun _ => hcut⟩
    (sameText_solid (hback.suffix (List.suffix_append _ _)))⟩

/-- What stands around a body does not depend on the flags. -/
theorem document_frame : ∃ front back last,
    (∀ body, document body = [.markup front, .token, .markup back] ++ body ++ last) ∧
      Solid shownPlaces back.toList ∧ ['\'', ';', ' '] <+: back.toList ∧ Steady last := by
  refine ⟨_, _, _, fun _ => rfl, solid_joinLines ?_, prefix_joinLines prefix_literal, fun _ => rfl⟩
  simp only [List.forall_mem_cons]
  exact ⟨solid_literal (by decide +kernel), solid_literal (by decide +kernel),
    solid_literal (by decide +kernel), solid_literal (by decide +kernel), solid_literal rfl,
    List.forall_mem_nil _⟩

/-- A page is a head, whose token counts for nothing, marked pieces and pieces that do not depend on
the flags. -/
theorem document_split (p : Preview) : ∃ front back pieces rest,
    document p.body = [.markup front, .token, .markup back] ++ (pieces ++ rest) ∧
      Solid shownPlaces back.toList ∧ ['\'', ';', ' '] <+: back.toList ∧ Marked pieces ∧
      Steady rest := by
  obtain ⟨front, back, last, hframe, hback, hmark, hlast⟩ := document_frame
  obtain ⟨pieces, tail, hpanel, hmarked, htail⟩ := panel_split p.panel
  have hrest : Steady (tail ++ (p.placed.map variablesPieces).getD [] ++
      scrollScript p.scrollLine ++ last) :=
    ((htail.append (steady_placed p.placed)).append (steady_scrollScript p.scrollLine)).append hlast
  refine ⟨front, back, pieces, _, ?_, hback, hmark, hmarked, hrest⟩
  simp only [hframe, Preview.body, hpanel, List.append_assoc]

/-- What is cut out of a page is the values of what is shown, between what the token and the
variables may have that looks like one. The text that is left is the same for all flags. -/
theorem cut_page (p : Preview) (token : String) : ∃ text before after, ∀ flags,
    cut shownPlaces (p.page flags token).toList =
      (text, before ++ shownValues flags (document p.body) ++ after) := by
  obtain ⟨front, back, pieces, rest, hpage, hback, hmark, hmarked, hsteady⟩ := document_split p
  obtain ⟨before, hhead⟩ := sameText_head (front.toList ++ token.toList) hback hmark
  obtain ⟨text, hcut⟩ := hhead.append (hmarked.sameText token)
  have hvalues : ∀ flags, shownValues flags (document p.body) = shownValues flags pieces := by
    intro flags
    rw [hpage, shownValues, List.filterMap_append, List.filterMap_append, ← shownValues,
      ← shownValues, ← shownValues, hsteady, List.append_nil]
    rfl
  have htoList : ∀ flags, (p.page flags token).toList =
      front.toList ++ token.toList ++ back.toList ++ written flags token pieces ++
        written ⟨true, true⟩ token rest := by
    intro flags
    rw [Preview.page, toList_writePieces, hpage, written_append, written_append,
      hsteady.written_eq flags ⟨true, true⟩, ← List.append_assoc]
    simp only [written_cons, Piece.write, List.append_assoc]
    rfl
  refine ⟨text ++ (cut shownPlaces (written ⟨true, true⟩ token rest)).1, before,
    (cut shownPlaces (written ⟨true, true⟩ token rest)).2, fun flags => ?_⟩
  rw [htoList, hcut, hvalues]
  rfl

/-- The flags after some toggles, in turn. -/
def toggled (flags : DisplayFlags) (changes : List (Toggle × Bool)) : DisplayFlags :=
  changes.foldl (fun flags change => Editor.Server.setToggle flags change.1 change.2) flags

/-- What a toggle was set to last. -/
def lastSet (changes : List (Toggle × Bool)) (toggle : Toggle) : Option Bool :=
  ((changes.filter (·.1 = toggle)).getLast?).map (·.2)

theorem flags_ext {flags flags' : DisplayFlags}
    (h : ∀ toggle, flags.get toggle = flags'.get toggle) : flags = flags' := by
  cases flags
  cases flags'
  exact congr (congrArg _ (h .source)) (h .debug)

theorem get_setToggle (flags : DisplayFlags) (toggle other : Toggle) (value : Bool) :
    (Editor.Server.setToggle flags toggle value).get other =
      if toggle = other then value else flags.get other := by
  cases toggle <;> cases other <;> rfl

theorem get_toggled (flags : DisplayFlags) (changes : List (Toggle × Bool)) (toggle : Toggle) :
    (toggled flags changes).get toggle = (lastSet changes toggle).getD (flags.get toggle) := by
  induction changes generalizing flags with
  | nil => rfl
  | cons change changes ih =>
    rw [toggled, List.foldl_cons, ← toggled, ih, get_setToggle, lastSet, lastSet]
    by_cases h : change.1 = toggle
    · rw [List.filter_cons_of_pos (by simpa using h), if_pos h, List.getLast?_cons]
      cases (changes.filter (·.1 = toggle)).getLast? with
      | none => rfl
      | some last => rfl
    · rw [List.filter_cons_of_neg (by simpa using h), if_neg h]

/-- Toggles return to the flags they began with if each was last set to what it was. -/
theorem toggled_eq_iff (flags : DisplayFlags) (changes : List (Toggle × Bool)) :
    toggled flags changes = flags ↔
      ∀ toggle, ∀ value ∈ lastSet changes toggle, value = flags.get toggle := by
  have hget : ∀ toggle, (toggled flags changes).get toggle = flags.get toggle ↔
      ∀ value ∈ lastSet changes toggle, value = flags.get toggle := by
    intro toggle
    rw [get_toggled]
    cases lastSet changes toggle with
    | none => simp
    | some last => simp
  constructor
  · intro h toggle
    exact (hget toggle).mp (congrArg (DisplayFlags.get · toggle) h)
  · exact fun h => flags_ext fun toggle => (hget toggle).mpr (h toggle)

theorem length_shownValues (flags flags' : DisplayFlags) (pieces : List Piece) :
    (shownValues flags pieces).length = (shownValues flags' pieces).length := by
  induction pieces with
  | nil => rfl
  | cons piece pieces ih =>
    cases piece with
    | shown => exact congrArg Nat.succ ih
    | markup | text | data | token => exact ih

theorem not_mem_joinLines {c : Char} {lines : List String} (hc : c ≠ '\n')
    (h : ∀ line ∈ lines, c ∉ line.toList) : c ∉ (joinLines lines).toList := by
  induction lines with
  | nil => exact not_mem_literal List.not_mem_nil
  | cons line lines ih =>
    rw [List.forall_mem_cons] at h
    cases lines with
    | nil => exact h.1
    | cons next lines =>
      rw [joinLines, String.intercalate_cons_cons]
      have hbreak : c ∉ "\n".toList := not_mem_literal (by simpa using hc)
      exact not_mem_append (not_mem_append h.1 hbreak) (ih h.2)

/-- A capital that is not in the markup of the first page of a document. -/
def Rare (c : Char) : Prop := c = 'Q' ∨ c = 'Z'

section Rare

variable {c : Char} (hc : Rare c)

include hc

theorem Rare.literal (h : 'Q' ∉ cs ∧ 'Z' ∉ cs) : c ∉ (String.ofList cs).toList := by
  rcases hc with rfl | rfl
  · exact not_mem_literal h.1
  · exact not_mem_literal h.2

theorem Rare.around {s : String} (hs : c ∉ s.toList) (h : 'Q' ∉ cs ∧ 'Z' ∉ cs)
    (h' : 'Q' ∉ ds ∧ 'Z' ∉ ds) : c ∉ (String.ofList cs ++ s ++ String.ofList ds).toList :=
  not_mem_append (not_mem_append (hc.literal h) hs) (hc.literal h')

theorem Rare.ne_newline : c ≠ '\n' := by
  rcases hc with rfl | rfl <;> decide

variable (htoken : c ∉ token.toList)

include htoken

theorem Rare.scrollScript (flags : DisplayFlags) :
    ∀ piece ∈ scrollScript 0, c ∉ (piece.write flags token).toList := by
  have htarget : c ∉ ("scroll(" ++ toString 0 ++ ")").toList :=
    hc.around (hc.literal (show 'Q' ∉ ['0'] ∧ 'Z' ∉ ['0'] by decide)) (by decide) (by decide)
  have hheight : c ∉ (toString rowHeight).toList :=
    hc.literal (show 'Q' ∉ ['1', '9'] ∧ 'Z' ∉ ['1', '9'] by decide)
  simp only [Page.scrollScript, List.forall_mem_cons, Piece.write]
  refine ⟨hc.literal (by decide +kernel), htoken, not_mem_joinLines hc.ne_newline ?_,
    List.forall_mem_nil _⟩
  simp only [List.forall_mem_cons]
  and_intros
  -- A line that is put together is not to be unfolded in search of a single literal.
  all_goals with_reducible first
    | exact List.forall_mem_nil _
    | refine hc.around hheight ?_ ?_ <;> decide +kernel
    | refine hc.around htarget ?_ ?_ <;> decide +kernel
    | refine hc.literal ?_; decide +kernel

theorem Rare.document (flags : DisplayFlags) {body : List Piece}
    (hbody : ∀ piece ∈ body, c ∉ (piece.write flags token).toList) :
    ∀ piece ∈ document body, c ∉ (piece.write flags token).toList := by
  simp only [Page.document, List.forall_mem_append, List.forall_mem_cons, Piece.write]
  refine ⟨⟨⟨not_mem_joinLines hc.ne_newline ?_, htoken, not_mem_joinLines hc.ne_newline ?_,
    List.forall_mem_nil _⟩, hbody⟩, hc.literal (by decide +kernel), htoken,
    not_mem_joinLines hc.ne_newline ?_, List.forall_mem_nil _⟩
  all_goals
    simp only [List.forall_mem_cons]
    and_intros
  all_goals with_reducible first
    | exact List.forall_mem_nil _
    | refine not_mem_append (hc.literal ?_) (hc.literal ?_) <;> decide +kernel
    | refine hc.literal ?_; decide +kernel

/-- In the first page of a document there is such a capital only if it is in the token. -/
theorem Rare.landing (flags : DisplayFlags) :
    c ∉ ((Preview.ofPanel .landing).page flags token).toList := by
  have hlanding : ∀ piece ∈ Page.landing, c ∉ (piece.write flags token).toList := by
    simp only [Page.landing, List.forall_mem_cons, Piece.write]
    exact ⟨not_mem_append (not_mem_append (not_mem_append (hc.literal (by decide +kernel))
      (hc.literal (by decide +kernel))) (hc.literal (by decide +kernel)))
      (hc.literal (by decide +kernel)), List.forall_mem_nil _⟩
  have hbody : ∀ piece ∈ (Preview.ofPanel .landing).body,
      c ∉ (piece.write flags token).toList := by
    have hempty : (Preview.ofPanel .landing).body = Page.landing ++ [] ++ Page.scrollScript 0 := rfl
    rw [hempty, List.append_nil, List.forall_mem_append]
    exact ⟨hlanding, hc.scrollScript htoken flags⟩
  rw [Preview.page, toList_writePieces, written, List.mem_flatMap]
  rintro ⟨piece, hpiece, hmem⟩
  exact hc.document htoken flags hbody piece hpiece hmem

end Rare

/-- The token of one letter only. -/
def tokenOf (c : Char) : String := String.ofList (List.replicate tokenLength c)

/-- Two pages of one preview differ in the token and in the values of what is shown only. -/
theorem page_differs_only (p : Preview) :
    (∀ flags token other word, isToken token = true → isToken other = true →
      Text.contains (p.page flags other) token = false →
      Text.contains (p.page flags token) other = false →
      Text.replace (p.page flags token) token word = Text.replace (p.page flags other) other word) ∧
    (∀ token, (∃ before after, ∀ flags, valuesOf (p.page flags token) =
        before ++ (shownValues flags (document p.body)).map String.ofList ++ after) ∧
      ∀ flags flags', blank (p.page flags token) = blank (p.page flags' token) ∧
        (valuesOf (p.page flags token)).length = (valuesOf (p.page flags' token)).length) ∧
    ∀ flags changes,
      (toggled flags changes = flags ↔
        ∀ toggle, ∀ value ∈ lastSet changes toggle, value = flags.get toggle) ∧
      (toggled flags changes = flags →
        ∀ token, p.page (toggled flags changes) token = p.page flags token) := by
  refine ⟨fun flags token other word htoken hother hfree hfree' => ?_, fun token => ?_,
    fun flags changes => ⟨toggled_eq_iff flags changes, fun h _ => by rw [h]⟩⟩
  · rw [replace_token p htoken hfree, replace_token p hother hfree']
  · obtain ⟨text, before, after, hcut⟩ := cut_page p token
    refine ⟨⟨before.map String.ofList, after.map String.ofList, fun flags => ?_⟩,
      fun flags flags' => ⟨?_, ?_⟩⟩
    · rw [valuesOf, hcut, List.map_append, List.map_append]
    · rw [blank, blank, hcut, hcut]
    · rw [valuesOf, valuesOf, hcut, hcut]
      simp [length_shownValues flags flags']

/-- Neither of two tokens is in the page that has the other one, and the pages differ in them only;
a toggle that is set and set back changes nothing. -/
theorem page_differs_only_landing :
    isToken (tokenOf 'Q') = true ∧ isToken (tokenOf 'Z') = true ∧
      Text.contains ((Preview.ofPanel .landing).page ⟨true, false⟩ (tokenOf 'Z')) (tokenOf 'Q') =
        false ∧
      Text.contains ((Preview.ofPanel .landing).page ⟨true, false⟩ (tokenOf 'Q')) (tokenOf 'Z') =
        false ∧
      Text.replace ((Preview.ofPanel .landing).page ⟨true, false⟩ (tokenOf 'Q')) (tokenOf 'Q')
          "token" =
        Text.replace ((Preview.ofPanel .landing).page ⟨true, false⟩ (tokenOf 'Z')) (tokenOf 'Z')
          "token" ∧
      toggled ⟨true, false⟩ [(.source, false), (.source, true)] = ⟨true, false⟩ ∧
      (Preview.ofPanel .landing).page (toggled ⟨true, false⟩ [(.source, false), (.source, true)])
          (tokenOf 'Q') =
        (Preview.ofPanel .landing).page ⟨true, false⟩ (tokenOf 'Q') :=
  have hfree {c d : Char} (hc : Rare c) (hne : c ≠ d) : Text.contains
      ((Preview.ofPanel .landing).page ⟨true, false⟩ (tokenOf d)) (tokenOf c) = false := by
    refine contains_of_not_mem ?_ (hc.landing ?_ _)
    · rw [tokenOf, String.toList_ofList]
      exact List.mem_replicate.mpr ⟨by decide, rfl⟩
    · rw [tokenOf, String.toList_ofList]
      exact fun hmem => hne (List.eq_of_mem_replicate hmem)
  have hq : isToken (tokenOf 'Q') = true := by decide +kernel
  have hz : isToken (tokenOf 'Z') = true := by decide +kernel
  have hqz := hfree (.inl rfl : Rare 'Q') (by decide : 'Q' ≠ 'Z')
  have hzq := hfree (.inr rfl : Rare 'Z') (by decide : 'Z' ≠ 'Q')
  have hback : toggled ⟨true, false⟩ [(.source, false), (.source, true)] = ⟨true, false⟩ := rfl
  have hdiffer := page_differs_only (Preview.ofPanel .landing)
  ⟨hq, hz, hqz, hzq, hdiffer.1 _ _ _ "token" hq hz hqz hzq, hback,
    (hdiffer.2.2 _ _).2 hback (tokenOf 'Q')⟩

end TraceView.Proofs.Page
