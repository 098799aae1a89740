import Mathlib.Data.List.Induction
import TraceView.Proofs.Html.ScriptData

/-!
# Where a script element ends

What a reader of HTML makes of the characters inside a script element. They may open a comment, and
inside the comment a script tag; as long as that is open, a closing tag ends the inner script only
and not the element. Which of the three it is can be told from the text read so far.
-/
namespace TraceView.Proofs.Html

/-- What the characters so far have opened: nothing, a comment, or a script tag in a comment. -/
inductive Depth where
  | plain
  | escaped
  | doubleEscaped
  deriving DecidableEq, Repr

/-- What the last characters may be the beginning of. -/
inductive Mark where
  | text
  | less
  | bang
  | bangDash
  | dash
  | dashDash
  /-- The name of a tag, its letters in lower case and the last one first. -/
  | name (closing : Bool) (letters : List Char)
  deriving DecidableEq, Repr

inductive ScriptState where
  | inside (depth : Depth) (mark : Mark)
  /-- A closing tag has ended the element. -/
  | ended
  deriving DecidableEq, Repr

/-- The characters that end the name of a tag. -/
def endsName (c : Char) : Bool :=
  c = '\t' || c = '\n' || c = '\x0c' || c = '\r' || c = ' ' || c = '/' || c = '>'

/-- The letters of `script`, the last one first. -/
def scriptLetters : List Char := ['t', 'p', 'i', 'r', 'c', 's']

/-- A mark that the character begins by itself. -/
def Depth.begin (depth : Depth) (c : Char) : Mark :=
  if c = '<' then .less else if c = '-' ∧ depth ≠ .plain then .dash else .text

/-- Comments are opened where nothing is open, and script tags in comments only. -/
def Depth.mark (depth : Depth) (mark : Mark) (c : Char) : Mark :=
  match mark with
  | .text => depth.begin c
  | .less =>
    if c = '/' then .name true []
    else if c = '!' ∧ depth = .plain then .bang
    else if c.isAlpha ∧ depth = .escaped then .name false [c.toLower]
    else depth.begin c
  | .bang => if c = '-' then .bangDash else depth.begin c
  | .dash | .dashDash => if c = '-' then .dashDash else depth.begin c
  | .name closing letters =>
    if c.isAlpha then .name closing (c.toLower :: letters) else depth.begin c
  | .bangDash => depth.begin c

/-- What a mark that the character completes leads to. -/
def Depth.complete? (depth : Depth) (mark : Mark) (c : Char) : Option ScriptState :=
  match mark with
  | .bangDash => if c = '-' then some (.inside .escaped .dashDash) else none
  | .dashDash => if c = '>' then some (.inside .plain .text) else none
  | .name false letters =>
    if endsName c ∧ letters = scriptLetters then some (.inside .doubleEscaped .text) else none
  | .name true letters =>
    if endsName c ∧ letters = scriptLetters then
      some (if depth = .doubleEscaped then .inside .escaped .text else .ended)
    else none
  | _ => none

def ScriptState.step (s : ScriptState) (c : Char) : ScriptState :=
  match s with
  | .ended => .ended
  | .inside depth mark => (depth.complete? mark c).getD (.inside depth (depth.mark mark c))

/-- The state after a text that stands at the beginning of a script element. -/
def scan (cs : List Char) : ScriptState := cs.foldl ScriptState.step (.inside .plain .text)

def ScriptState.isDoubleEscaped : ScriptState → Bool
  | .inside .doubleEscaped _ => true
  | _ => false

/-- A comment is opened, a script tag in it before it is closed, and it is not closed later. -/
def SwallowsEnd (cs : List Char) : Prop :=
  ∃ before comment tag stop after,
    cs = before ++ ['<', '!', '-', '-'] ++ comment ++ '<' :: tag ++ stop :: after ∧
      tag.map Char.toLower = ['s', 'c', 'r', 'i', 'p', 't'] ∧ endsName stop = true ∧
      ¬ ['-', '-', '>'] <:+: '-' :: '-' :: comment ∧ ¬ ['-', '-', '>'] <:+: after

/-- The mark behind a text that is all read at one depth. A mark shows the last characters only, so
it is always as if all of the text had been read at the depth of the end. Texts are taken with their
last character first. -/
def markOf (depth : Depth) : List Char → Mark
  | [] => .text
  | c :: past => depth.mark (markOf depth past) c

variable {depth : Depth} {mark : Mark} {c : Char} {past : List Char} {letters : List Char}

theorem ne_of_isAlpha (h : c.isAlpha = true) :
    c ≠ '<' ∧ c ≠ '/' ∧ c ≠ '!' ∧ c ≠ '-' ∧ c ≠ '>' := by
  refine ⟨?_, ?_, ?_, ?_, ?_⟩ <;>
  · rintro rfl
    cases h

theorem mark_eq_less : depth.mark mark c = .less ↔ c = '<' := by
  have hc := @ne_of_isAlpha c
  cases mark <;> grind [Depth.mark, Depth.begin]

theorem mark_eq_bang : depth.mark mark c = .bang ↔ c = '!' ∧ mark = .less ∧ depth = .plain := by
  cases mark <;> grind [Depth.mark, Depth.begin]

theorem mark_eq_bangDash : depth.mark mark c = .bangDash ↔ c = '-' ∧ mark = .bang := by
  cases mark <;> grind [Depth.mark, Depth.begin]

theorem mark_eq_dashDash :
    depth.mark mark c = .dashDash ↔ c = '-' ∧ (mark = .dash ∨ mark = .dashDash) := by
  cases mark <;> grind [Depth.mark, Depth.begin]

theorem mark_dashes : depth.mark mark c = .dash ∨ depth.mark mark c = .dashDash ↔
    c = '-' ∧ mark ≠ .bang ∧ (depth ≠ .plain ∨ mark = .dash ∨ mark = .dashDash) := by
  have hc := @ne_of_isAlpha c
  cases mark <;> grind [Depth.mark, Depth.begin]

theorem mark_eq_name_true : depth.mark mark c = .name true letters ↔
    (c = '/' ∧ mark = .less ∧ letters = []) ∨
      (c.isAlpha = true ∧ ∃ rest, mark = .name true rest ∧ letters = c.toLower :: rest) := by
  cases mark <;> grind [Depth.mark, Depth.begin]

theorem mark_eq_name_false : depth.mark mark c = .name false letters ↔
    c.isAlpha = true ∧
      ((mark = .less ∧ depth = .escaped ∧ letters = [c.toLower]) ∨
        ∃ rest, mark = .name false rest ∧ letters = c.toLower :: rest) := by
  have hc := @ne_of_isAlpha c
  cases mark <;> grind [Depth.mark, Depth.begin]

theorem markOf_eq_less : markOf depth past = .less ↔ ['<'] <+: past := by
  cases past with
  | nil => simp [markOf]
  | cons c past =>
    rw [markOf, mark_eq_less]
    grind

theorem markOf_eq_bang : markOf depth past = .bang ↔ depth = .plain ∧ ['!', '<'] <+: past := by
  cases past with
  | nil => simp [markOf]
  | cons c past =>
    rw [markOf, mark_eq_bang, markOf_eq_less]
    grind

theorem markOf_eq_bangDash :
    markOf depth past = .bangDash ↔ depth = .plain ∧ ['-', '!', '<'] <+: past := by
  cases past with
  | nil => simp [markOf]
  | cons c past =>
    rw [markOf, mark_eq_bangDash, markOf_eq_bang]
    grind

theorem markOf_dashes : markOf depth past = .dash ∨ markOf depth past = .dashDash ↔
    depth ≠ .plain ∧ ['-'] <+: past := by
  induction past with
  | nil => simp [markOf]
  | cons c past ih =>
    have hbang : markOf depth past = .bang → depth = .plain := fun h => (markOf_eq_bang.mp h).1
    rw [markOf, mark_dashes, ih]
    grind

theorem markOf_eq_dashDash :
    markOf depth past = .dashDash ↔ depth ≠ .plain ∧ ['-', '-'] <+: past := by
  cases past with
  | nil => simp [markOf]
  | cons c past =>
    rw [markOf, mark_eq_dashDash, markOf_dashes]
    grind

/-- The name of a tag is read up from the `<`. -/
theorem markOf_eq_name_false : markOf depth past = .name false letters ↔ depth = .escaped ∧
    ∃ tag before, past = tag ++ '<' :: before ∧ tag ≠ [] ∧ (∀ c ∈ tag, c.isAlpha = true) ∧
      letters = tag.map Char.toLower := by
  induction past generalizing letters with
  | nil => simp [markOf]
  | cons c past ih =>
    rw [markOf, mark_eq_name_false, markOf_eq_less]
    constructor
    · rintro ⟨hc, ⟨⟨before, rfl⟩, rfl, rfl⟩ | ⟨rest, hrest, rfl⟩⟩
      · exact ⟨rfl, [c], before, rfl, by simp, by simpa using hc, rfl⟩
      · obtain ⟨hd, tag, before, rfl, -, htag, rfl⟩ := ih.mp hrest
        exact ⟨hd, c :: tag, before, rfl, by simp, List.forall_mem_cons.mpr ⟨hc, htag⟩, rfl⟩
    · rintro ⟨hd, tag, before, he, hne, htag, rfl⟩
      cases tag with
      | nil => exact absurd rfl hne
      | cons d tag =>
        obtain ⟨rfl, rfl⟩ := List.cons.inj he
        obtain ⟨hc, htag⟩ := List.forall_mem_cons.mp htag
        refine ⟨hc, ?_⟩
        cases tag with
        | nil => exact .inl ⟨⟨before, rfl⟩, hd, rfl⟩
        | cons e tag => exact .inr ⟨_, ih.mpr ⟨hd, e :: tag, before, rfl, by simp, htag, rfl⟩, rfl⟩

theorem markOf_eq_name_true (h : markOf depth past = .name true letters) :
    ∃ tag before, past = tag ++ '/' :: '<' :: before ∧ letters = tag.map Char.toLower := by
  induction past generalizing letters with
  | nil => cases h
  | cons c past ih =>
    rw [markOf, mark_eq_name_true, markOf_eq_less] at h
    obtain ⟨rfl, ⟨before, rfl⟩, rfl⟩ | ⟨-, rest, hrest, rfl⟩ := h
    · exact ⟨[], before, rfl, rfl⟩
    · obtain ⟨tag, before, rfl, rfl⟩ := ih hrest
      exact ⟨c :: tag, before, rfl, rfl⟩

theorem isAlpha_of_mem {tag : List Char} (h : tag.map Char.toLower = scriptLetters) :
    ∀ c ∈ tag, c.isAlpha = true := by
  have hlower : ∀ l ∈ scriptLetters, 97 ≤ l.toNat ∧ l.toNat ≤ 122 := by simp [scriptLetters]
  intro c hc
  have hl := hlower c.toLower (h ▸ List.mem_map_of_mem hc)
  rw [toNat_toLower] at hl
  have hcode : (65 ≤ c.toNat ∧ c.toNat ≤ 90) ∨ (97 ≤ c.toNat ∧ c.toNat ≤ 122) := by
    split at hl <;> omega
  have halpha : c.isAlpha = (decide (c.val ≥ 'A'.val ∧ c.val ≤ 'Z'.val) ||
      (decide (c.val ≥ 'a'.val) && decide (c.val ≤ 'z'.val))) := rfl
  rw [halpha]
  simp only [Bool.or_eq_true, Bool.and_eq_true, decide_eq_true_eq]
  exact hcode

theorem foldScriptChar_eq_toLower {c : Char} (h : c.isAlpha = true) :
    TraceView.Html.foldScriptChar c = c.toLower := by
  rw [TraceView.Html.foldScriptChar, if_neg]
  rintro rfl
  cases h

/-- Behind a `</` the word closes the script. -/
theorem closesScript_of_tag {tag before : List Char} (h : tag.map Char.toLower = scriptLetters) :
    ClosesScript (tag ++ '/' :: '<' :: before).reverse := by
  have hfold : tag.map TraceView.Html.foldScriptChar = scriptLetters := by
    rw [← h]
    exact List.map_congr_left fun c hc => foldScriptChar_eq_toLower (isAlpha_of_mem h c hc)
  have hword : TraceView.Html.isScriptWord tag.reverse = true := by
    have hlength : tag.reverse.length = 6 := by simpa [scriptLetters] using congrArg List.length h
    rw [TraceView.Html.isScriptWord, decide_eq_true_iff, List.take_of_length_le (by simp [hlength]),
      List.map_reverse, hfold]
    rfl
  obtain ⟨word, after, hcases, he⟩ := (isScriptWord_iff _).mp hword
  exact ⟨before.reverse, word, after, hcases, by simp [← he]⟩

/-- In a text taken from its end, a comment is open. A dash belongs to what opened the comment as
well as to what closes it, so `<!-->` is a comment that is closed at once. -/
def CommentOpen (past : List Char) : Prop :=
  ∃ comment before, past = comment ++ '-' :: '-' :: '!' :: '<' :: before ∧
    ¬ ['>', '-', '-'] <:+: comment ++ ['-', '-']

/-- In a text taken from its end, a script tag that began in a comment is open, and the comment is
not closed since. -/
def TagOpen (past : List Char) : Prop :=
  ∃ after stop tag before, past = after ++ stop :: (tag ++ '<' :: before) ∧
    tag.map Char.toLower = scriptLetters ∧ endsName stop = true ∧ CommentOpen before ∧
    ¬ ['>', '-', '-'] <:+: after

theorem dashes_begin (comment before : List Char) :
    ['-', '-'] <+: comment ++ '-' :: '-' :: before ↔ ['-', '-'] <+: comment ++ ['-', '-'] := by
  rcases comment with _ | ⟨_, _ | ⟨_, _⟩⟩ <;> simp

theorem commentOpen_cons : CommentOpen (c :: past) ↔
    (CommentOpen past ∧ ¬ (c = '>' ∧ ['-', '-'] <+: past)) ∨
      (c = '-' ∧ ['-', '!', '<'] <+: past) := by
  constructor
  · rintro ⟨comment, before, he, hopen⟩
    cases comment with
    | nil =>
      obtain ⟨rfl, rfl⟩ := List.cons.inj he
      exact .inr ⟨rfl, before, rfl⟩
    | cons d comment =>
      obtain ⟨rfl, rfl⟩ := List.cons.inj he
      rw [List.cons_append, List.infix_cons_iff, List.cons_prefix_cons, not_or] at hopen
      refine .inl ⟨⟨comment, before, rfl, hopen.2⟩, ?_⟩
      rintro ⟨rfl, hdashes⟩
      exact hopen.1 ⟨rfl, (dashes_begin _ _).mp hdashes⟩
  · rintro (⟨⟨comment, before, rfl, hopen⟩, hstays⟩ | ⟨rfl, before, rfl⟩)
    · refine ⟨c :: comment, before, rfl, ?_⟩
      rw [List.cons_append, List.infix_cons_iff, List.cons_prefix_cons, not_or]
      exact ⟨fun ⟨hc, hdashes⟩ => hstays ⟨hc.symm, (dashes_begin _ _).mpr hdashes⟩, hopen⟩
    · exact ⟨[], before, rfl, by decide⟩

theorem commentOpen_cons_of_ne (hdash : c ≠ '-') (hgreater : c ≠ '>') :
    CommentOpen (c :: past) ↔ CommentOpen past := by
  simp [commentOpen_cons, hdash, hgreater]

/-- The name of a tag neither opens nor closes a comment. -/
theorem commentOpen_tag {tag before : List Char} (h : ∀ c ∈ tag, c.isAlpha = true) :
    CommentOpen (tag ++ '<' :: before) ↔ CommentOpen before := by
  induction tag with
  | nil => exact commentOpen_cons_of_ne (by decide) (by decide)
  | cons c tag ih =>
    obtain ⟨hc, htag⟩ := List.forall_mem_cons.mp h
    obtain ⟨-, -, -, hdash, hgreater⟩ := ne_of_isAlpha hc
    rw [List.cons_append, commentOpen_cons_of_ne hdash hgreater, ih htag]

/-- The text ends with a script tag that the character completes, in a comment. -/
def TagEnds (past : List Char) (c : Char) : Prop :=
  endsName c = true ∧ ∃ tag before, past = tag ++ '<' :: before ∧
    tag.map Char.toLower = scriptLetters ∧ CommentOpen before

theorem tagOpen_cons : TagOpen (c :: past) ↔
    (TagOpen past ∧ ¬ (c = '>' ∧ ['-', '-'] <+: past)) ∨ TagEnds past c := by
  have hdashes : ∀ {stop} after rest, endsName stop = true →
      (['-', '-'] <+: after ++ stop :: rest ↔ ['-', '-'] <+: after) := by
    intro stop after rest hstop
    have hne : '-' ≠ stop := by
      rintro rfl
      cases hstop
    rcases after with _ | ⟨_, _ | ⟨_, _⟩⟩ <;> simp [hne]
  constructor
  · rintro ⟨after, stop, tag, before, he, htag, hstop, hopen, hafter⟩
    cases after with
    | nil =>
      obtain ⟨rfl, rfl⟩ := List.cons.inj he
      exact .inr ⟨hstop, tag, before, rfl, htag, hopen⟩
    | cons d after =>
      obtain ⟨rfl, rfl⟩ := List.cons.inj he
      rw [List.infix_cons_iff, List.cons_prefix_cons, not_or] at hafter
      refine .inl ⟨⟨after, stop, tag, before, rfl, htag, hstop, hopen, hafter.2⟩, ?_⟩
      rintro ⟨rfl, h⟩
      exact hafter.1 ⟨rfl, (hdashes _ _ hstop).mp h⟩
  · rintro (⟨⟨after, stop, tag, before, rfl, htag, hstop, hopen, hafter⟩, hstays⟩ |
      ⟨hstop, tag, before, rfl, htag, hopen⟩)
    · refine ⟨c :: after, stop, tag, before, rfl, htag, hstop, hopen, ?_⟩
      rw [List.infix_cons_iff, List.cons_prefix_cons, not_or]
      exact ⟨fun ⟨hc, h⟩ => hstays ⟨hc.symm, (hdashes _ _ hstop).mpr h⟩, hafter⟩
    · exact ⟨[], c, tag, before, rfl, htag, hstop, hopen, by simp⟩

/-- What is open behind a text that is taken from its end. -/
def Opened : Depth → List Char → Prop
  | .plain, past => ¬ CommentOpen past ∧ ¬ TagOpen past
  | .escaped, past => CommentOpen past ∧ ¬ TagOpen past
  | .doubleEscaped, past => TagOpen past

theorem tagEnds_iff : TagEnds past c ↔
    endsName c = true ∧ CommentOpen past ∧ markOf .escaped past = .name false scriptLetters := by
  constructor
  · rintro ⟨hstop, tag, before, rfl, htag, hopen⟩
    have halpha := isAlpha_of_mem htag
    have hne : tag ≠ [] := by
      rintro rfl
      cases htag
    exact ⟨hstop, (commentOpen_tag halpha).mpr hopen,
      markOf_eq_name_false.mpr ⟨rfl, tag, before, rfl, hne, halpha, htag.symm⟩⟩
  · rintro ⟨hstop, hopen, hmark⟩
    obtain ⟨-, tag, before, rfl, -, halpha, htag⟩ := markOf_eq_name_false.mp hmark
    exact ⟨hstop, tag, before, rfl, htag.symm, (commentOpen_tag halpha).mp hopen⟩

theorem step_of_complete {s : ScriptState} (h : depth.complete? mark c = some s) :
    (ScriptState.inside depth mark).step c = s := by
  rw [ScriptState.step, h, Option.getD_some]

theorem mark_of_endsName (hc : endsName c = true) (hmark : c = '/' → mark ≠ .less) :
    depth.mark mark c = .text := by
  have halpha : c.isAlpha = false := by
    by_contra h
    simp only [endsName, Bool.or_eq_true, decide_eq_true_eq] at hc
    obtain (((((rfl | rfl) | rfl) | rfl) | rfl) | rfl) | rfl := hc <;> exact h rfl
  have hne : c ≠ '<' ∧ c ≠ '!' ∧ c ≠ '-' := by
    refine ⟨?_, ?_, ?_⟩ <;>
    · rintro rfl
      cases hc
  cases mark <;> grind [Depth.mark, Depth.begin]

theorem step_opens (hbang : ['-', '!', '<'] <+: past) :
    (ScriptState.inside .plain (markOf .plain past)).step '-' =
      .inside .escaped (markOf .escaped ('-' :: past)) := by
  have hescaped : markOf .escaped ('-' :: past) = .dashDash := by
    obtain ⟨before, rfl⟩ := hbang
    exact markOf_eq_dashDash.mpr ⟨by decide, _, rfl⟩
  apply step_of_complete
  rw [markOf_eq_bangDash.mpr ⟨rfl, hbang⟩, hescaped]
  rfl

theorem step_closes (hdepth : depth ≠ .plain) (hdashes : ['-', '-'] <+: past) :
    (ScriptState.inside depth (markOf depth past)).step '>' =
      .inside .plain (markOf .plain ('>' :: past)) := by
  apply step_of_complete
  rw [markOf_eq_dashDash.mpr ⟨hdepth, hdashes⟩, markOf,
    mark_of_endsName rfl fun h => absurd h (by decide)]
  rfl

theorem step_tag (h : TagEnds past c) :
    (ScriptState.inside .escaped (markOf .escaped past)).step c =
      .inside .doubleEscaped (markOf .doubleEscaped (c :: past)) := by
  obtain ⟨hstop, -, hmark⟩ := tagEnds_iff.mp h
  have hless : markOf .doubleEscaped past ≠ .less := by
    have hescaped : markOf .escaped past = .less ↔ ['<'] <+: past := markOf_eq_less
    rw [Ne, markOf_eq_less, ← hescaped, hmark]
    decide
  apply step_of_complete
  rw [hmark, markOf, mark_of_endsName hstop fun _ => hless, Depth.complete?, if_pos ⟨hstop, rfl⟩]

theorem step_stays (hclose : ¬ ClosesScript past.reverse)
    (hopens : depth = .plain → ¬ (c = '-' ∧ ['-', '!', '<'] <+: past))
    (hcloses : depth ≠ .plain → ¬ (c = '>' ∧ ['-', '-'] <+: past))
    (htag : depth = .escaped → markOf .escaped past = .name false scriptLetters →
      endsName c = false) :
    (ScriptState.inside depth (markOf depth past)).step c =
      .inside depth (markOf depth (c :: past)) := by
  have hnone : depth.complete? (markOf depth past) c = none := by
    match hmark : markOf depth past with
    | .bangDash =>
      obtain ⟨hdepth, hbang⟩ := markOf_eq_bangDash.mp hmark
      rw [Depth.complete?, if_neg fun hc => hopens hdepth ⟨hc, hbang⟩]
    | .dashDash =>
      obtain ⟨hdepth, hdashes⟩ := markOf_eq_dashDash.mp hmark
      rw [Depth.complete?, if_neg fun hc => hcloses hdepth ⟨hc, hdashes⟩]
    | .name false letters =>
      obtain ⟨rfl, -⟩ := markOf_eq_name_false.mp hmark
      rw [Depth.complete?, if_neg]
      rintro ⟨hstop, rfl⟩
      rw [htag rfl hmark] at hstop
      cases hstop
    | .name true letters =>
      obtain ⟨tag, before, rfl, rfl⟩ := markOf_eq_name_true hmark
      have hword : tag.map Char.toLower ≠ scriptLetters := fun h => hclose (closesScript_of_tag h)
      rw [Depth.complete?, if_neg fun h => hword h.2]
    | .text | .less | .bang | .dash => rfl
  rw [ScriptState.step, hnone, Option.getD_none, markOf]

theorem Opened.step (h : Opened depth past) (hclose : ¬ ClosesScript past.reverse) (c : Char) :
    ∃ next, Opened next (c :: past) ∧
      (ScriptState.inside depth (markOf depth past)).step c =
        .inside next (markOf next (c :: past)) := by
  by_cases hcloses : depth ≠ .plain ∧ c = '>' ∧ ['-', '-'] <+: past
  · obtain ⟨hdepth, rfl, hdashes⟩ := hcloses
    -- The name of a tag has no dashes, so none can end here.
    have htag : ¬ TagEnds past '>' := by
      rw [tagEnds_iff, markOf_eq_dashDash.mpr ⟨by decide, hdashes⟩]
      rintro ⟨-, -, hmark⟩
      cases hmark
    exact ⟨.plain, ⟨by simp [commentOpen_cons, hdashes], by simp [tagOpen_cons, hdashes, htag]⟩,
      step_closes hdepth hdashes⟩
  have hopen : depth ≠ .plain → ¬ (c = '>' ∧ ['-', '-'] <+: past) := fun hd h => hcloses ⟨hd, h⟩
  cases depth with
  | plain =>
    obtain ⟨hcomment, htag⟩ := h
    have htag' : ¬ TagOpen (c :: past) := by simp [tagOpen_cons, tagEnds_iff, htag, hcomment]
    by_cases hopens : c = '-' ∧ ['-', '!', '<'] <+: past
    · obtain ⟨rfl, hbang⟩ := hopens
      exact ⟨.escaped, ⟨commentOpen_cons.mpr (.inr ⟨rfl, hbang⟩), htag'⟩, step_opens hbang⟩
    · exact ⟨.plain, ⟨by simp [commentOpen_cons, hcomment, hopens], htag'⟩,
        step_stays hclose (fun _ => hopens) hopen nofun⟩
  | escaped =>
    obtain ⟨hcomment, htag⟩ := h
    have hcomment' := commentOpen_cons.mpr (.inl ⟨hcomment, hopen (by decide)⟩)
    by_cases hends : TagEnds past c
    · exact ⟨.doubleEscaped, tagOpen_cons.mpr (.inr hends), step_tag hends⟩
    · refine ⟨.escaped, ⟨hcomment', by simp [tagOpen_cons, htag, hends]⟩,
        step_stays hclose nofun hopen fun _ hmark => ?_⟩
      by_contra hstop
      exact hends (tagEnds_iff.mpr ⟨by simpa using hstop, hcomment, hmark⟩)
  | doubleEscaped =>
    exact ⟨.doubleEscaped, tagOpen_cons.mpr (.inl ⟨h, hopen (by decide)⟩),
      step_stays hclose nofun hopen nofun⟩

/-- What a text that closes no script leaves open. -/
theorem scan_opened {cs : List Char} (h : ¬ ClosesScript cs) :
    ∃ depth, Opened depth cs.reverse ∧ scan cs = .inside depth (markOf depth cs.reverse) := by
  induction cs using List.reverseRecOn with
  | nil => exact ⟨.plain, by simp [Opened, CommentOpen, TagOpen], rfl⟩
  | append_singleton cs c ih =>
    have hclose : ¬ ClosesScript cs := by
      rintro ⟨before, word, after, hword, rfl⟩
      exact h ⟨before, word, after ++ [c], hword, by simp⟩
    obtain ⟨depth, hopened, hscan⟩ := ih hclose
    obtain ⟨next, hnext, hstep⟩ := hopened.step (by rwa [List.reverse_reverse]) c
    refine ⟨next, by rwa [List.reverse_append], ?_⟩
    rw [scan, List.foldl_append, ← scan, hscan, List.reverse_append]
    exact hstep

theorem swallowsEnd_iff (cs : List Char) : SwallowsEnd cs ↔ TagOpen cs.reverse := by
  constructor
  · rintro ⟨before, comment, tag, stop, after, rfl, htag, hstop, hcomment, hafter⟩
    refine ⟨after.reverse, stop, tag.reverse,
      comment.reverse ++ '-' :: '-' :: '!' :: '<' :: before.reverse, by simp, ?_, hstop,
      ⟨comment.reverse, before.reverse, rfl, ?_⟩, ?_⟩
    · rw [List.map_reverse, htag]
      rfl
    · rw [← List.reverse_infix]
      simpa using hcomment
    · rw [← List.reverse_infix]
      simpa using hafter
  · rintro ⟨after, stop, tag, past, he, htag, hstop, ⟨comment, before, rfl, hcomment⟩, hafter⟩
    refine ⟨before.reverse, comment.reverse, tag.reverse, stop, after.reverse, ?_, ?_, hstop, ?_, ?_⟩
    · rw [← List.reverse_reverse cs, he]
      simp
    · rw [List.map_reverse, htag]
      rfl
    · rw [← List.reverse_infix] at hcomment
      simpa using hcomment
    · rw [← List.reverse_infix] at hafter
      simpa using hafter

/-- A text that closes no script leaves the element open, and its end is lost in a script tag of a
comment just where there is one. -/
theorem scan_of_not_closesScript {cs : List Char} (h : ¬ ClosesScript cs) :
    scan cs ≠ .ended ∧ ((scan cs).isDoubleEscaped = true ↔ SwallowsEnd cs) := by
  obtain ⟨depth, hopened, hscan⟩ := scan_opened h
  rw [hscan, swallowsEnd_iff]
  refine ⟨by simp, ?_⟩
  cases depth with
  | plain => exact iff_of_false (by simp [ScriptState.isDoubleEscaped]) hopened.2
  | escaped => exact iff_of_false (by simp [ScriptState.isDoubleEscaped]) hopened.2
  | doubleEscaped => exact iff_of_true rfl hopened

end TraceView.Proofs.Html
