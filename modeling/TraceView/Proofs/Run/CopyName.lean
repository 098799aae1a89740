import TraceView.Run.SourceCopy

/-!
# Where a copy of the source lies

The name of a copy is that of one entry of a directory, whatever the document is called, so the copy
lies directly in the scratch directory.
-/
namespace TraceView.Proofs.Run

open TraceView.Run

/-- Names of entries of a directory. -/
structure EntryName (name : String) : Prop where
  ne_empty : name ≠ ""
  ne_dot : name ≠ "."
  ne_dots : name ≠ ".."
  plain : '/' ∉ name.toList

/-- The path leads to the entry of that name directly in the directory. -/
structure LiesIn (dir : Path) (name : String) (path : Path) : Prop where
  entry : EntryName name
  root : path.isAbsolute = dir.isAbsolute
  names : path.names = dir.names ++ [name]

variable {cs cs' entry : List Char} {segs : List (List Char)} {dir name : String}

theorem segments_ne_nil (cs : List Char) : Path.segments cs ≠ [] := by
  cases cs with
  | nil => simp [Path.segments]
  | cons c cs =>
    rw [Path.segments]
    split
    · simp
    · split <;> simp

theorem segments_append_separator (cs cs' : List Char) :
    Path.segments (cs ++ '/' :: cs') = Path.segments cs ++ Path.segments cs' := by
  induction cs with
  | nil => rfl
  | cons c cs ih =>
    rw [List.cons_append, Path.segments, ih, Path.segments]
    split
    · rfl
    · obtain ⟨first, rest, hsegs⟩ := List.exists_cons_of_ne_nil (segments_ne_nil cs)
      rw [hsegs]
      rfl

theorem segments_plain (h : '/' ∉ cs) : Path.segments cs = [cs] := by
  induction cs with
  | nil => rfl
  | cons c cs ih =>
    simp only [List.mem_cons, not_or] at h
    rw [Path.segments, if_neg (Ne.symm h.1), ih h.2]

/-- The names among the segments of a path. -/
def namesOf (segs : List (List Char)) : List String :=
  ((segs.take 1).filter (· ≠ []) ++
    (segs.drop 1).filter fun s => s ≠ [] && s ≠ ['.']).map String.ofList

theorem names_eq (p : Path) : p.names = namesOf (Path.segments p.toList) := rfl

theorem namesOf_concat (hsegs : segs ≠ []) (hne : entry ≠ []) (hdot : entry ≠ ['.']) :
    namesOf (segs ++ [entry]) = namesOf segs ++ [String.ofList entry] := by
  obtain ⟨first, rest, rfl⟩ := List.exists_cons_of_ne_nil hsegs
  simp [namesOf, List.filter_append, hne, hdot]

theorem namesOf_trailing (hsegs : segs ≠ []) : namesOf (segs ++ [[]]) = namesOf segs := by
  obtain ⟨first, rest, rfl⟩ := List.exists_cons_of_ne_nil hsegs
  simp [namesOf, List.filter_append]

theorem EntryName.chars (h : EntryName name) : name.toList ≠ [] ∧ name.toList ≠ ['.'] := by
  constructor
  · exact mt String.toList_eq_nil_iff.mp h.ne_empty
  · intro he
    exact h.ne_dot (String.toList_inj.mp he)

theorem EntryName.relative (h : EntryName name) : Path.isAbsolute name = false := by
  have hplain := h.plain
  rw [Path.isAbsolute, Path.isAbsoluteChars]
  cases hcs : name.toList with
  | nil => rfl
  | cons c cs =>
    rw [hcs] at hplain
    have hc : c ≠ '/' := fun he => hplain (he ▸ List.mem_cons_self)
    simpa using hc

theorem isAbsolute_append {rest : String} (hdir : dir ≠ "") :
    Path.isAbsolute (dir ++ rest) = Path.isAbsolute dir := by
  obtain ⟨c, cs, hcs⟩ := List.exists_cons_of_ne_nil (mt String.toList_eq_nil_iff.mp hdir)
  rw [Path.isAbsolute, Path.isAbsolute, String.toList_append, hcs]
  rfl

/-- An entry joined to a directory lies in it. -/
theorem liesIn_join (dir : Path) (h : EntryName name) : LiesIn dir name (Path.join dir name) := by
  obtain ⟨hne, hdot⟩ := h.chars
  have hsegs := segments_plain h.plain
  have hback : String.ofList name.toList = name := String.ofList_toList
  rw [Path.join, h.relative]
  by_cases hdir : dir = ""
  · subst hdir
    refine ⟨h, h.relative, ?_⟩
    rw [if_pos (.inr rfl), names_eq, hsegs]
    simp [names_eq, namesOf, Path.segments, hne]
  · rw [if_neg (by simp [hdir])]
    split
    · next hlast =>
      refine ⟨h, isAbsolute_append hdir, ?_⟩
      obtain ⟨front, hfront⟩ := List.getLast?_eq_some_iff.mp hlast
      rw [names_eq, names_eq, String.toList_append, hfront, List.append_assoc]
      rw [List.singleton_append, segments_append_separator, hsegs, segments_append_separator]
      rw [namesOf_concat (segments_ne_nil _) hne hdot, hback]
      exact congrArg (· ++ [name]) (namesOf_trailing (segments_ne_nil _)).symm
    · refine ⟨h, ?_, ?_⟩
      · rw [String.append_assoc, isAbsolute_append hdir]
      · rw [names_eq, names_eq, String.toList_append, String.toList_append, List.append_assoc]
        change namesOf (Path.segments (dir.toList ++ '/' :: name.toList)) = _
        rw [segments_append_separator, hsegs, namesOf_concat (segments_ne_nil _) hne hdot, hback]

/-- The path leads to the entry of that name, and the directory is its parent. -/
structure IsChild (dir : Path) (name : String) (path : Path) : Prop extends
    LiesIn dir name path where
  fileName : path.fileName? = some name
  parent : ∃ parent, path.parent? = some parent ∧ Path.same parent dir = true

theorem same_of_names {p q : Path} (hroot : p.isAbsolute = q.isAbsolute)
    (hnames : p.names = q.names) : Path.same p q = true := by
  rw [Path.same, Path.canonical, Path.canonical, hroot, hnames, beq_self_eq_true]

theorem namesOf_dot (hsegs : segs ≠ []) : namesOf (segs ++ [['.']]) = namesOf segs := by
  obtain ⟨first, rest, rfl⟩ := List.exists_cons_of_ne_nil hsegs
  simp [namesOf, List.filter_append]

theorem isAbsoluteChars_append (hcs : cs ≠ []) :
    Path.isAbsoluteChars (cs ++ cs') = Path.isAbsoluteChars cs := by
  obtain ⟨c, rest, rfl⟩ := List.exists_cons_of_ne_nil hcs
  rfl

/-- Separators and `.` segments at the end of a path do not count. -/
theorem names_stripEnd (r : List Char) :
    namesOf (Path.segments (Path.stripEnd r).reverse) = namesOf (Path.segments r.reverse) ∧
      Path.isAbsoluteChars (Path.stripEnd r).reverse = Path.isAbsoluteChars r.reverse := by
  fun_induction Path.stripEnd r with
  | case1 c rest ih =>
    have hsplit : ('/' :: c :: rest).reverse = (c :: rest).reverse ++ '/' :: [] := List.reverse_cons
    rw [ih.1, ih.2, hsplit, segments_append_separator, isAbsoluteChars_append (by simp)]
    exact ⟨(namesOf_trailing (segments_ne_nil _)).symm, rfl⟩
  | case2 rest ih =>
    have hsplit : ('.' :: '/' :: rest).reverse = rest.reverse ++ '/' :: ['.'] := by simp
    have hslash : ('/' :: rest).reverse = rest.reverse ++ '/' :: [] := List.reverse_cons
    refine ⟨ih.1.trans ?_, ih.2.trans ?_⟩
    · rw [hsplit, hslash, segments_append_separator, segments_append_separator]
      exact (namesOf_trailing (segments_ne_nil _)).trans (namesOf_dot (segments_ne_nil _)).symm
    · have hdot : ('.' :: '/' :: rest).reverse = ('/' :: rest).reverse ++ ['.'] := List.reverse_cons
      rw [hdot, isAbsoluteChars_append (by simp)]
  | case3 cs => exact ⟨rfl, rfl⟩

theorem EntryName.reverse_cons (h : EntryName name) :
    ∃ c rest, name.toList.reverse = c :: rest ∧ c ≠ '/' := by
  obtain ⟨c, rest, hcs⟩ := List.exists_cons_of_ne_nil (mt List.reverse_eq_nil_iff.mp h.chars.1)
  refine ⟨c, rest, hcs, fun he => h.plain (List.mem_reverse.mp ?_)⟩
  rw [hcs, he]
  exact List.mem_cons_self

/-- An entry at the end of a path is not stripped. -/
theorem stripEnd_entry (h : EntryName name) (front : List Char) :
    Path.stripEnd (name.toList.reverse ++ front) = name.toList.reverse ++ front := by
  obtain ⟨c, rest, hcs, hc⟩ := h.reverse_cons
  rw [hcs, List.cons_append]
  unfold Path.stripEnd
  split
  · next heq => exact absurd (List.cons.inj heq).1 hc
  · next heq =>
    obtain ⟨rfl, htail⟩ := List.cons.inj heq
    cases rest with
    | nil => exact absurd (List.reverse_eq_iff.mp hcs) h.chars.2
    | cons d rest =>
      obtain ⟨rfl, -⟩ := List.cons.inj htail
      refine absurd (List.mem_reverse.mp ?_) h.plain
      rw [hcs]
      exact List.mem_cons_of_mem _ List.mem_cons_self
  · rfl

/-- The name and the parent of a path that ends with an entry, after a separator if after anything.
The front is read from its end. -/
theorem entry_at_end (h : EntryName name) {front : List Char} {path : Path}
    (hfront : front = [] ∨ ∃ rest, front = '/' :: rest)
    (hpath : path.toList.reverse = name.toList.reverse ++ front) :
    path.fileName? = some name ∧
      path.parent? = some (String.ofList (Path.stripEnd front).reverse) := by
  obtain ⟨c, rest, hcs, hc⟩ := h.reverse_cons
  have hplain : ∀ d ∈ name.toList.reverse, (d ≠ '/' : Bool) = true := by
    intro d hd
    simpa using fun he : d = '/' => h.plain (he ▸ List.mem_reverse.mp hd)
  have htake : (name.toList.reverse ++ front).takeWhile (· ≠ '/') = name.toList.reverse := by
    rw [List.takeWhile_append_of_pos hplain]
    rcases hfront with rfl | ⟨rest, rfl⟩ <;> simp
  have hdrop : (name.toList.reverse ++ front).dropWhile (· ≠ '/') = front := by
    rw [List.dropWhile_append_of_pos hplain]
    rcases hfront with rfl | ⟨rest, rfl⟩ <;> simp
  constructor
  · rw [Path.fileName?, hpath, stripEnd_entry h, htake, List.reverse_reverse, if_neg]
    · rw [String.ofList_toList]
    · rintro (he | he | he)
      · exact h.chars.1 he
      · exact h.chars.2 he
      · exact h.ne_dots (String.toList_inj.mp he)
  · rw [Path.parent?, hpath, stripEnd_entry h]
    split
    · next heq => simp [hcs] at heq
    · next heq =>
      rw [hcs] at heq
      exact absurd (List.cons.inj heq).1 hc
    · rw [hdrop]

/-- What stands before an entry that is joined to a directory spells the directory. -/
theorem join_front (dir : Path) (h : EntryName name) : ∃ front,
    (Path.join dir name).toList.reverse = name.toList.reverse ++ front ∧
      (front = [] ∨ ∃ rest, front = '/' :: rest) ∧
      namesOf (Path.segments front.reverse) = dir.names ∧
      Path.isAbsoluteChars front.reverse = dir.isAbsolute := by
  rw [Path.join, h.relative]
  by_cases hdir : dir = ""
  · subst hdir
    exact ⟨[], by simp, .inl rfl, rfl, rfl⟩
  · rw [if_neg (by simp [hdir])]
    split
    · next hlast =>
      obtain ⟨init, hinit⟩ := List.getLast?_eq_some_iff.mp hlast
      refine ⟨dir.toList.reverse, by simp, .inr ⟨init.reverse, by simp [hinit]⟩, ?_, ?_⟩
      · rw [List.reverse_reverse, names_eq]
      · rw [List.reverse_reverse, Path.isAbsolute]
    · have hchars : dir.toList ≠ [] := mt String.toList_eq_nil_iff.mp hdir
      refine ⟨'/' :: dir.toList.reverse, by simp, .inr ⟨_, rfl⟩, ?_, ?_⟩
      · rw [List.reverse_cons, List.reverse_reverse, segments_append_separator, names_eq]
        exact namesOf_trailing (segments_ne_nil _)
      · rw [List.reverse_cons, List.reverse_reverse, isAbsoluteChars_append hchars, Path.isAbsolute]

theorem isChild_join (dir : Path) (h : EntryName name) : IsChild dir name (Path.join dir name) := by
  obtain ⟨front, hpath, hfront, hnames, hroot⟩ := join_front dir h
  obtain ⟨hname, hparent⟩ := entry_at_end h hfront hpath
  obtain ⟨hnames', hroot'⟩ := names_stripEnd front
  refine ⟨liesIn_join dir h, hname, _, hparent, same_of_names ?_ ?_⟩
  · rw [Path.isAbsolute, String.toList_ofList, hroot', hroot]
  · rw [names_eq, String.toList_ofList, hnames', hnames]

theorem isSafeInName_underscore : isSafeInName '_' = true := by decide +kernel

theorem isSafeInName_separator : isSafeInName '/' = false := by decide +kernel

theorem isSafeInName_sanitizeFrom (inRun : Bool) (cs : List Char) :
    ∀ c ∈ sanitizeFrom inRun cs, isSafeInName c = true := by
  induction cs generalizing inRun with
  | nil => simp [sanitizeFrom]
  | cons c cs ih =>
    rw [sanitizeFrom]
    split
    · next hc => exact List.forall_mem_cons.mpr ⟨hc, ih false⟩
    · split
      · exact ih true
      · exact List.forall_mem_cons.mpr ⟨isSafeInName_underscore, ih true⟩

theorem sanitizeFrom_ne_nil (hcs : cs ≠ []) : sanitizeFrom false cs ≠ [] := by
  cases cs with
  | nil => exact absurd rfl hcs
  | cons c cs =>
    rw [sanitizeFrom]
    split <;> simp

/-- The first character that is replaced leaves an underscore. -/
theorem sanitizeFrom_of_no_underscore (h : '_' ∉ sanitizeFrom false cs) :
    sanitizeFrom false cs = cs := by
  induction cs with
  | nil => rfl
  | cons c cs ih =>
    rw [sanitizeFrom] at h ⊢
    split at h
    · next hc =>
      rw [if_pos hc, ih (List.not_mem_of_not_mem_cons h)]
    · simp at h

/-- A name that is no entry's after the unsafe characters are replaced was none before. -/
theorem entryName_sanitize (hne : name ≠ "") (hdot : name ≠ ".") (hdots : name ≠ "..") :
    EntryName (sanitize name) := by
  have hsame : ∀ dots : String, '_' ∉ dots.toList → name ≠ dots → sanitize name ≠ dots := by
    rintro dots hno hname rfl
    rw [sanitize, String.toList_ofList] at hno
    rw [sanitize, sanitizeFrom_of_no_underscore hno, String.ofList_toList] at hname
    exact hname rfl
  refine ⟨?_, hsame "." (by decide) hdot, hsame ".." (by decide) hdots, fun hslash => ?_⟩
  · intro hempty
    have hchars := String.toList_eq_nil_iff.mpr hempty
    rw [sanitize, String.toList_ofList] at hchars
    exact sanitizeFrom_ne_nil (mt String.toList_eq_nil_iff.mp hne) hchars
  · rw [sanitize, String.toList_ofList] at hslash
    have hsafe := isSafeInName_sanitizeFrom false name.toList _ hslash
    rw [isSafeInName_separator] at hsafe
    cases hsafe

theorem chars_of_ofList (h : String.ofList cs = name) : cs = name.toList := by
  rw [← h, String.toList_ofList]

theorem fileName_entry {p : Path} (h : p.fileName? = some name) :
    name ≠ "" ∧ name ≠ "." ∧ name ≠ ".." := by
  rw [Path.fileName?] at h
  split at h
  · cases h
  · next hno =>
    simp only [not_or] at hno
    cases h
    exact ⟨fun he => hno.1 (chars_of_ofList he), fun he => hno.2.1 (chars_of_ofList he),
      fun he => hno.2.2 (chars_of_ofList he)⟩

theorem titled_entry (id : DocumentId) :
    id ++ ".py" ≠ "" ∧ id ++ ".py" ≠ "." ∧ id ++ ".py" ≠ ".." := by
  have hlast : (id ++ ".py").toList.getLast? = some 'y' := by
    rw [String.toList_append]
    simp
  refine ⟨?_, ?_, ?_⟩ <;> intro he <;> rw [he] at hlast <;> simp at hlast

theorem entryName_fileName (snapshot : Snapshot) : EntryName snapshot.fileName := by
  rw [Snapshot.fileName]
  cases hname : snapshot.path.bind Path.fileName? with
  | none =>
    obtain ⟨hne, hdot, hdots⟩ := titled_entry snapshot.document
    exact entryName_sanitize hne hdot hdots
  | some name =>
    obtain ⟨path, -, hpath⟩ := Option.bind_eq_some_iff.mp hname
    obtain ⟨hne, hdot, hdots⟩ := fileName_entry hpath
    exact entryName_sanitize hne hdot hdots

/-- A copy lies directly in its directory. -/
theorem copyPath_liesIn (snapshot : Snapshot) (dir : Path) :
    LiesIn dir snapshot.fileName (snapshot.copyPath dir) :=
  liesIn_join dir (entryName_fileName snapshot)

theorem isSafeInName_iff {c : Char} :
    isSafeInName c = true ↔ Text.isWordChar c = true ∨ c = '.' := by
  simp [isSafeInName]

theorem sanitizeFrom_of_safe (h : ∀ c ∈ cs, isSafeInName c = true) :
    sanitizeFrom false cs = cs := by
  induction cs with
  | nil => rfl
  | cons c cs ih =>
    obtain ⟨hc, hcs⟩ := List.forall_mem_cons.mp h
    rw [sanitizeFrom, if_pos hc, ih hcs]

/-- The names that stay as they are are those without an unsafe character. -/
theorem sanitize_eq_self_iff :
    sanitize name = name ↔ ∀ c ∈ name.toList, Text.isWordChar c = true ∨ c = '.' := by
  simp only [← isSafeInName_iff]
  constructor
  · intro h
    rw [← h, sanitize, String.toList_ofList]
    exact isSafeInName_sanitizeFrom false name.toList
  · intro h
    rw [sanitize, sanitizeFrom_of_safe h, String.ofList_toList]

/-- Whatever a document is called, its copy is an entry of the scratch directory and has a name of
word characters and dots; a name of these stays as it is. -/
theorem copy_stays_inside (snapshot : Snapshot) :
    (snapshot.fileName ≠ "" ∧ snapshot.fileName ≠ "." ∧ snapshot.fileName ≠ ".." ∧
      ∀ c ∈ snapshot.fileName.toList, Text.isWordChar c = true ∨ c = '.') ∧
    (∀ dir, IsChild dir snapshot.fileName (snapshot.copyPath dir)) ∧
    ∀ name, sanitize name = name ↔ ∀ c ∈ name.toList, Text.isWordChar c = true ∨ c = '.' := by
  have hentry := entryName_fileName snapshot
  refine ⟨⟨hentry.ne_empty, hentry.ne_dot, hentry.ne_dots, fun c hc => ?_⟩,
    fun dir => isChild_join dir hentry, fun name => sanitize_eq_self_iff⟩
  rw [Snapshot.fileName, sanitize, String.toList_ofList] at hc
  exact isSafeInName_iff.mp (isSafeInName_sanitizeFrom false _ c hc)

end TraceView.Proofs.Run
