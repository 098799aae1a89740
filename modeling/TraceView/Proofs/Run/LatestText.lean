import Mathlib.Data.List.Forall2
import TraceView.Proofs.Run.CopyName
import TraceView.Proofs.Run.Isolation
import TraceView.Proofs.Run.Request
import TraceView.Proofs.Text.Occurrence

/-!
# A run traces the latest text

Whatever makes a document start, the tracer reads the text the document last asked to have traced,
on its standard input as well as in the copy it is given, whose path stands in its arguments.
-/
namespace TraceView.Proofs.Run

open TraceView.Run
open TraceView.Proofs.Text (Replaces replaces_replace)

/-- What a file of a directory holds, after an event. -/
def recorded (dir : Path) (name : String) (text : Option String) : Event → Option String
  | .copyWritten dir' name' text' => if dir' = dir ∧ name' = name then some text' else text
  | .scratchMade dir' | .scratchRemoved dir' => if dir' = dir then none else text
  | _ => text

/-- What a file of a directory holds after some events, if there is such a file. -/
def contents (dir : Path) (name : String) (es : List Event) : Option String :=
  es.foldl (recorded dir name) none

/-- Where a trace of a snapshot runs. -/
inductive RunsIn (options : Options) (snapshot : Snapshot) : Option Path → Prop where
  | workspace {root} (hw : options.workspaceRoot = some root) : RunsIn options snapshot (some root)
  | directory {path dir : Path} (hw : options.workspaceRoot = none)
      (hp : snapshot.path = some path) (hd : path.parent? = some dir) (hne : dir ≠ "") :
      RunsIn options snapshot (some dir)
  | nowhere (hw : options.workspaceRoot = none)
      (hp : ∀ path dir : Path, snapshot.path = some path → path.parent? = some dir → dir = "") :
      RunsIn options snapshot none

/-- What the tracer is given: its arguments as they are, or with the path of a file in place of
each placeholder. The file lies in the scratch directory and holds the text. -/
inductive Given (options : Options) (scratch : Option Path) (es : List Event) (text : String) :
    List String → Prop where
  | plain (hfree : ∀ arg ∈ options.tracerArgs, Text.contains arg filePlaceholder = false) :
      Given options scratch es text options.tracerArgs
  | copied {dir : Path} {name : String} {path : Path} {args} (hdir : scratch = some dir)
      (hpath : LiesIn dir name path) (hfile : contents dir name es = some text)
      (hargs : List.Forall₂
        (fun arg arg' => Replaces filePlaceholder.toList path.toList arg.toList arg'.toList)
        options.tracerArgs args) :
      Given options scratch es text args

/-- A launch in a turn, with what the turn did before it, traces a snapshot that its document last
asked to have traced. -/
structure TracesLatest (start : Scheduler) (past : List Turn) (t : Turn) (before : List Event)
    (d : DocumentId) (spec : LaunchSpec) (snapshot : Snapshot) : Prop where
  asked : lastRequest (past ++ [t]) d = some snapshot
  stdin : spec.stdin = some snapshot.text
  cwd : RunsIn start.options snapshot spec.cwd
  args : Given start.options (scratchOf (play start (past ++ [t])) d)
    ((play start past).events ++ before) snapshot.text spec.args

variable {s s' u u' : Scheduler} {t : Turn} {d : DocumentId} {l pre post : List Act}
  {process : Nat} {token : Token} {spec : LaunchSpec} {copies before after : List Event}

section Preparing

variable {env : Surroundings} {options : Options} {snapshot : Snapshot} {scratch : Option Path}
  {asked : Nat}

theorem recorded_effects (dir : Path) (name : String) (text : Option String) (es : List Event) :
    (effects es).foldl (recorded dir name) text = es.foldl (recorded dir name) text := by
  induction es generalizing text with
  | nil => rfl
  | cons e es ih =>
    rw [effects_cons]
    split
    · next he =>
      cases e with
      | logged line => exact ih text
      | _ => cases he
    · exact ih _

theorem runsIn_workingDir (options : Options) (snapshot : Snapshot) :
    RunsIn options snapshot (options.workingDir snapshot) := by
  rw [Options.workingDir]
  cases hw : options.workspaceRoot with
  | some root => exact .workspace hw
  | none =>
    rw [Option.none_or]
    cases hd : (snapshot.path.bind Path.parent?).filter (· ≠ "") with
    | some dir =>
      obtain ⟨hbind, hne⟩ := Option.filter_eq_some_iff.mp hd
      obtain ⟨path, hp, hparent⟩ := Option.bind_eq_some_iff.mp hbind
      exact .directory hw hp hparent (of_decide_eq_true hne)
    | none =>
      refine .nowhere hw fun path dir hp hparent => ?_
      rw [hp, Option.bind_some, hparent] at hd
      by_contra hne
      simp [Option.filter_some, hne] at hd

theorem replaces_fillIn (options : Options) (file : Path) :
    List.Forall₂
      (fun arg arg' => Replaces filePlaceholder.toList file.toList arg.toList arg'.toList)
      options.tracerArgs (options.fillIn file) := by
  rw [Options.fillIn, List.forall₂_map_right_iff]
  exact List.forall₂_same.mpr fun arg _ => replaces_replace (by decide)

/-- What a launch is prepared with, if a copy is made. -/
theorem given_writeCopy {dir : Path} {made es' : List Event}
    (h : (writeCopy env options snapshot dir asked made).spec = .ok spec)
    (hes : effects es' = (writeCopy env options snapshot dir asked made).events) :
    spec = options.traceSpec snapshot spec.args ∧
      ∀ es, Given options (writeCopy env options snapshot dir asked made).scratch (es ++ es')
        snapshot.text spec.args := by
  rw [writeCopy] at h hes ⊢
  cases hw : env.write (snapshot.copyPath dir) with
  | some fault =>
    rw [hw] at h
    cases h
  | none =>
    rw [hw] at h hes
    cases h
    refine ⟨rfl, fun es =>
      .copied rfl (copyPath_liesIn snapshot dir) ?_ (replaces_fillIn options _)⟩
    rw [contents, List.foldl_append, ← recorded_effects _ _ _ es', hes, List.foldl_append]
    simp [recorded]

theorem given_prepare {es' : List Event}
    (h : (prepare env options snapshot scratch asked).spec = .ok spec)
    (hes : effects es' = (prepare env options snapshot scratch asked).events) :
    spec = options.traceSpec snapshot spec.args ∧
      ∀ es, Given options (prepare env options snapshot scratch asked).scratch (es ++ es')
        snapshot.text spec.args := by
  unfold prepare at h hes ⊢
  split at h
  · next huses =>
    rw [if_pos huses] at hes ⊢
    split at h
    · exact given_writeCopy h hes
    · split at h
      · cases h
      · next hdir =>
        rw [hdir] at hes
        exact given_writeCopy h hes
  · next hplain =>
    rw [if_neg hplain]
    cases h
    refine ⟨rfl, fun es => .plain fun arg harg => Bool.eq_false_iff.mpr fun hcontains => hplain ?_⟩
    exact List.any_eq_true.mpr ⟨arg, harg, hcontains⟩

end Preparing

/-- A start among some acts, with what was done before its process was launched: the copies made
for it come last. -/
inductive StartsAt (s : Scheduler) (l : List Act) (s' : Scheduler) (d : DocumentId)
    (process : Nat) (token : Token) (spec : LaunchSpec) (before : List Event) : Prop where
  | mk {u u' pre post copies es} (hl : l = pre ++ .start d token process spec copies :: post)
      (hdoes : Does u (.start d token process spec copies) u') (hacts : Acts u' post s')
      (hevents : u.events ++ es = s.events ++ before) (hcopies : effects es = copies)

theorem copying_start (h : Does s (.start d token process spec copies) s') :
    ∀ e ∈ copies, Copying e := by
  cases h with
  | start hs ha hr hv hp =>
    subst hp
    exact copying_prepare _ _ _ _ _

/-- A trace launch is done by an act of starting. -/
theorem startsAt_of_acts (h : Acts s l s') (he : s'.events =
    s.events ++ (before ++ .launched process spec (.trace d token) :: after)) :
    StartsAt s l s' d process token spec before := by
  induction h generalizing before with
  | nil => simp at he
  | @cons s mid s' a l first rest ih =>
    obtain ⟨es, hmid, hes⟩ := events_does first
    obtain ⟨es', hrest, -⟩ := events_acts rest
    have hlater : ∀ before', before = es ++ before' →
        es' = before' ++ .launched process spec (.trace d token) :: after →
        StartsAt s (a :: l) s' d process token spec before := by
      intro before' hbefore hes'
      obtain ⟨hl, hdoes, hacts, hevents, hcopies⟩ := ih (by rw [hrest, hes'])
      refine .mk (by rw [hl, List.cons_append]) hdoes hacts ?_ hcopies
      rw [hevents, hmid, hbefore, List.append_assoc]
    rw [hrest, hmid, List.append_assoc] at he
    rcases List.append_eq_append_iff.mp (List.append_cancel_left he) with
      ⟨before', hbefore, hes'⟩ | ⟨tail, hhead, htail⟩
    · exact hlater before' hbefore hes'
    · cases tail with
      | nil => exact hlater [] (by simpa using hhead.symm) htail.symm
      | cons e tail =>
        obtain ⟨rfl, -⟩ := List.cons.inj htail
        have hmem : .launched process spec (.trace d token) ∈ a.effects := by
          rw [← hes, mem_effects]
          simp [hhead, isLogged]
        obtain ⟨copies, rfl⟩ := start_of_launched first hmem
        have hno : .launched process spec (.trace d token) ∉ copies := fun hm => by
          cases copying_start first _ hm
        have hsplit : effects before ++ .launched process spec (.trace d token) :: effects tail =
            copies ++ .launched process spec (.trace d token) :: [] := by
          have heffects := hes
          rw [hhead, effects_append, effects_cons] at heffects
          exact heffects
        have hcopies := (List.append_cons_inj_of_notMem hno List.not_mem_nil).mp hsplit.symm
        exact @StartsAt.mk s _ s' d process token spec before s mid [] l copies before rfl first
          rest rfl hcopies.1.symm

/-- After the start of a document nothing is done about it in a turn. -/
theorem Plays.start_last (hf : Formed s) (h : Plays s t l (t.apply s))
    (hl : l = pre ++ .start d token process spec copies :: post) : about d post = [] := by
  have habout : about d l = about d pre ++ .start d token process spec copies :: about d post := by
    rw [hl, about_append, about_own rfl]
  have hmem : .start d token process spec copies ∈ about d l := by simp [habout]
  cases h.fares hf d with
  | @attempted slot slot' first b e hw ha hb hlist hz hran =>
    have hnot : .start d token process spec copies ∉ first ++ [b] := by
      cases hw <;> cases hb <;> simp
    have hsplit : (first ++ [b]) ++ e :: [] =
        about d pre ++ .start d token process spec copies :: about d post := by
      rw [← habout, hlist, List.append_assoc, List.singleton_append]
    exact ((List.append_cons_inj_of_notMem hnot List.not_mem_nil).mp hsplit).2.2.symm
  | edited _ _ hlist | accepted _ hlist | closed _ hlist | aside _ hlist => simp [hlist] at hmem
  | installing _ hi hlist =>
    rw [hlist] at hmem
    cases hi <;> simp at hmem

theorem scratchOf_bare (s : Scheduler) (d : DocumentId) :
    scratchOf s d = (bare s d).bind (·.scratch) := by
  rw [scratchOf, bare]
  cases s.slot? d <;> rfl

/-- What a start is given is the request in the slot, and the slot keeps both it and the scratch
directory of the copy. -/
theorem given_start {es' : List Event} (h : Does u (.start d token process spec copies) u')
    (hcopies : effects es' = copies) :
    ∃ snapshot scratch, requestOf (bare u' d) = some snapshot ∧ scratchOf u' d = scratch ∧
      spec = u.options.traceSpec snapshot spec.args ∧
      ∀ es, Given u.options scratch (es ++ es') snapshot.text spec.args := by
  cases h with
  | @start env p _ slot snapshot _ es hs ha hr hv hp hok hes =>
    subst hp
    obtain ⟨hspec, hgiven⟩ := given_prepare hok hcopies
    exact ⟨snapshot, _, (congrArg requestOf (bare_put u d _ rfl)).trans hr, scratchOf_put rfl,
      hspec, hgiven⟩

/-- Every trace that is launched reads what its document last asked for, in whatever turn. -/
theorem traces_latest (availability : Availability) (options : Options) (past : List Turn)
    (t : Turn) (before after : List Event) (d : DocumentId) (process : Nat) (token : Token)
    (spec : LaunchSpec) (h : t.did (play (.new availability options) past) =
      before ++ .launched process spec (.trace d token) :: after) :
    ∃ snapshot, TracesLatest (.new availability options) past t before d spec snapshot := by
  have hf := formed_new availability options
  obtain ⟨l, hl⟩ := turn_unfolds (formed_play hf past) t
  obtain ⟨es, hevents, -⟩ := events_acts hl.acts
  have hdid : t.did (play (.new availability options) past) = es := by
    rw [Turn.did, hevents, List.drop_left]
  obtain ⟨hlist, hdoes, hacts, hbefore, hcopies⟩ :=
    startsAt_of_acts hl.acts (by rw [hevents, ← hdid, h])
  obtain ⟨snapshot, scratch, hrequest, hscratch, hspec, hgiven⟩ := given_start hdoes hcopies
  have hplay : play (.new availability options) (past ++ [t]) =
      t.apply (play (.new availability options) past) := by simp
  have hbare := bare_about hacts (hl.start_last (formed_play hf past) hlist)
  have hoptions := (options_acts hacts).trans (options_does hdoes)
  rw [← hplay, options_play hf] at hoptions
  rw [← hplay] at hbare
  refine ⟨snapshot, ?_, ?_, ?_, ?_⟩
  · rw [← lastRequest_play availability options, hbare, hrequest]
  · rw [hspec]
    rfl
  · rw [hspec, hoptions]
    exact runsIn_workingDir ..
  · rw [scratchOf_bare, hbare, ← scratchOf_bare, hscratch, ← hbefore, hoptions]
    exact hgiven _

def copyingOptions : Options :=
  ⟨"python", 300, "tracer", ["-m", "tracer", filePlaceholder], [], none⟩

/-- A document has run once and waits for a probe when it is edited again, under another name. -/
def editedWaiting : List Turn :=
  [⟨obliging, 0, .request ⟨"d", "one", some "/w/a b.py"⟩ .save⟩,
    ⟨obliging, 1, .complete ⟨.probe "python", .exited (some 0) "" ""⟩⟩,
    ⟨obliging, 2, .request ⟨"d", "two", some "/w/a b.py"⟩ .change⟩,
    ⟨obliging, 3, .complete ⟨.trace "d" 1, .exited (some 1) "" "No module named tracer"⟩⟩,
    ⟨obliging, 302, .tick⟩,
    ⟨obliging, 303, .request ⟨"d", "three", some "/w/c.py"⟩ .change⟩]

def probeEnds : Turn := ⟨obliging, 304, .complete ⟨.probe "python", .exited (some 0) "" ""⟩⟩

def launchedThen : Event :=
  .launched 3 ⟨"python", ["-m", "tracer", "copy/c.py"], some "/w", some "three"⟩ (.trace "d" 2)

theorem traces_latest_editedWaiting :
    probeEnds.did (play (.new [] copyingOptions) editedWaiting) =
        (probeEnds.did (play (.new [] copyingOptions) editedWaiting)).take 2 ++ launchedThen ::
          (probeEnds.did (play (.new [] copyingOptions) editedWaiting)).drop 3 ∧
      ∃ snapshot, TracesLatest (.new [] copyingOptions) editedWaiting probeEnds
        ((probeEnds.did (play (.new [] copyingOptions) editedWaiting)).take 2) "d"
        ⟨"python", ["-m", "tracer", "copy/c.py"], some "/w", some "three"⟩ snapshot :=
  have h : probeEnds.did (play (.new [] copyingOptions) editedWaiting) =
      (probeEnds.did (play (.new [] copyingOptions) editedWaiting)).take 2 ++ launchedThen ::
        (probeEnds.did (play (.new [] copyingOptions) editedWaiting)).drop 3 := by decide +kernel
  ⟨h, traces_latest [] copyingOptions editedWaiting probeEnds _ _ "d" 3 2 _ h⟩

end TraceView.Proofs.Run
