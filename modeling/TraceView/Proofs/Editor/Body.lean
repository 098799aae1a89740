import TraceView.Editor.Frame
import TraceView.Proofs.Json.Value

/-!
# The body of a message

A body is given up as soon as it can be no message, so reading one back needs more than reading its
object back: no state on the way may rule the message out. A number or a type is looked at once it
is read, all other values once they are fields.
-/

namespace TraceView.Proofs.Editor

open TraceView TraceView.Editor TraceView.Json TraceView.Text.Utf8 TraceView.Proofs.Text
  TraceView.Proofs.Json

/-- An optional value that is written and read without loss. A null would read as no value. -/
def Carried (value : Option Json) : Prop :=
  ∀ v ∈ value, v ≠ .null ∧ Stored (deepest - 1) v

def CarriedContent : Content → Prop
  | .response requestSeq _ _ _ body => requestSeq ≤ Text.wordMax ∧ Carried body
  | .event _ body => Carried body
  | .request _ arguments => Carried arguments

/-- Messages as the program holds them: every number is a word, and there is room for the body. -/
structure CarriedMessage (room : Frame.Room) (m : Message) : Prop where
  seq : m.seq ≤ Text.wordMax
  content : CarriedContent m.content
  size : m.toJson.write.utf8ByteSize ≤ room.length

/-- The reader goes on from the state. -/
def Passed (s : State) : Prop := checked s = .ok s

variable {s t : State} {bs : List UInt8} {done fields : Fields} {key old : String} {v : Json}

theorem passed_of_underWay (hm : isUnderWay s.mode = true) (h : ruledOut s = false) :
    Passed s := by
  rw [Passed, checked, if_neg (by simp [h])]
  split
  · next he =>
    rw [he] at hm
    cases hm
  · rfl

theorem foldlM_bodyStep (h : Passes Passed s bs t) : bs.foldlM bodyStep s = .ok t := by
  induction h with
  | nil => rfl
  | cons hu hpu ht hpt _ ih =>
    rw [List.foldlM_cons, bodyStep, hu]
    change (checked _ >>= _) >>= _ = _
    rw [hpu]
    change ((State.take _ _).mapError _ >>= _) >>= _ = _
    rw [ht]
    change checked _ >>= _ = _
    rw [hpt]
    exact ih

/-- No field that is read makes the object no message. -/
def Fitting (done : Fields) : Prop := ∀ e ∈ done, wrongFixed e = false

theorem Fitting.head (h : Fitting done) : (done.head?.map wrongFixed).getD false = false := by
  cases done with
  | nil => rfl
  | cons e rest => exact h e List.mem_cons_self

theorem passed_before {mode : Mode} (h : Fitting done) (hm : isUnderWay mode = true)
    (hcolon : mode = .colon → isFixedKey key = true → ∀ e ∈ done, e.1 ≠ key) :
    Passed ⟨[.object done key], mode⟩ := by
  refine passed_of_underWay hm ?_
  have hhead := h.head
  cases mode with
  | colon =>
    change (isFixedKey key && done.any (·.1 = key)) = false
    cases hfixed : isFixedKey key with
    | false => rfl
    | true => simpa [hfixed] using hcolon rfl hfixed
  | done => cases hm
  | _ => exact hhead

/-- Nothing inside a field other than the number and the type is looked at. -/
theorem passed_within (h : Fitting done) (hkey : isFixedKey key = false) :
    Within Passed [.object done key] := by
  intro frames mode hm
  cases frames with
  | nil => exact passed_before h hm fun _ hfixed => absurd hfixed (by simp [hkey])
  | cons f frames =>
    refine passed_of_underWay hm ?_
    cases frames with
    | nil =>
      cases mode with
      | done => cases hm
      | _ => cases f <;> exact hkey
    | cons g frames =>
      cases mode with
      | done => cases hm
      | _ => cases f <;> cases g <;> cases frames <;> rfl

/-- A field that is read without being given up. -/
structure Kept (e : String × Json) : Prop where
  fitting : wrongFixed e = false
  stored : Stored (deepest - 1) e.2
  scalar : isFixedKey e.1 = true → Stored 0 e.2

theorem Fitting.cons {e : String × Json} (he : Kept e) (h : Fitting done) :
    Fitting (e :: done) := by
  intro e' he'
  rcases List.mem_cons.mp he' with rfl | he'
  · exact he.fitting
  · exact h e' he'

theorem Kept.admits {e : String × Json} (he : Kept e) (h : Fitting done)
    (hnew : ∀ e' ∈ done, e'.1 ≠ e.1) : Admits Passed [] done old e := by
  have hbefore : ∀ mode, isUnderWay mode = true → Passed ⟨[.object done e.1], mode⟩ :=
    fun mode hm => passed_before h hm fun _ _ => hnew
  have hcons : Fitting (e :: done) := h.cons he
  have hafter : Passed ⟨[.object (e :: done) e.1], .afterField⟩ := passed_before hcons rfl nofun
  constructor
  · exact fun _ _ => passed_before h rfl nofun
  · exact hbefore _ rfl
  · exact hbefore _ rfl
  · cases hfixed : isFixedKey e.1 with
    | true => exact (he.scalar hfixed).reads_scalar hbefore hafter
    | false =>
      exact he.stored.reads (List.cons_ne_nil _ _) (Nat.le_refl _) (passed_within h hfixed) hafter
  · exact hafter
  · exact passed_before hcons rfl nofun

theorem admitsAll_kept (hkept : ∀ e ∈ fields, Kept e) (hdistinct : (fields.map (·.1)).Nodup)
    (h : Fitting done) (hnew : ∀ e ∈ fields, ∀ e' ∈ done, e'.1 ≠ e.1) :
    AdmitsAll Passed [] done old fields := by
  induction fields generalizing done old with
  | nil => trivial
  | cons e rest ih =>
    have he := hkept e List.mem_cons_self
    obtain ⟨hfirst, hrest⟩ := List.nodup_cons.mp hdistinct
    refine ⟨he.admits h (hnew e List.mem_cons_self), ih (fun e' he' => hkept e'
      (List.mem_cons_of_mem _ he')) hrest (h.cons he) fun e' he' f hf => ?_⟩
    rcases List.mem_cons.mp hf with rfl | hf
    · exact fun heq => hfirst (List.mem_map.mpr ⟨e', he', heq.symm⟩)
    · exact hnew e' (List.mem_cons_of_mem _ he') f hf

variable {room : Frame.Room} {m : Message}

theorem kept_of_free (hkey : isFixedKey key = false) (h : Stored (deepest - 1) v) :
    Kept (key, v) where
  fitting := by
    simp only [isFixedKey, Bool.or_eq_false_iff, decide_eq_false_iff_not] at hkey
    simp [wrongFixed, hkey]
  stored := h
  scalar hfixed := absurd hfixed (by simp [hkey])

theorem stored_nat {n k : Nat} (h : n ≤ Text.wordMax) : Stored k (.nat n) :=
  .whole ⟨by omega, by omega⟩

theorem stored_orNull {value : Option Json} (h : Carried value) :
    Stored (deepest - 1) (orNull id value) := by
  cases value with
  | none => exact .null
  | some v => exact (h v rfl).2

theorem stored_message {n : Nat} (message : Option String) : Stored n (orNull .string message) := by
  cases message with
  | none => exact .null
  | some text => exact .string text

theorem kept_content {c : Content} (h : CarriedContent c) : ∀ e ∈ c.fields, Kept e := by
  cases c with
  | response requestSeq success command message body =>
    simp only [Content.fields, List.forall_mem_cons]
    exact ⟨kept_of_free (by decide) (stored_nat h.1), kept_of_free (by decide) (.bool success),
      kept_of_free (by decide) (.string command), kept_of_free (by decide) (stored_message message),
      kept_of_free (by decide) (stored_orNull h.2), nofun⟩
  | event name body =>
    simp only [Content.fields, List.forall_mem_cons]
    exact ⟨kept_of_free (by decide) (.string name), kept_of_free (by decide) (stored_orNull h),
      nofun⟩
  | request command arguments =>
    simp only [Content.fields, List.forall_mem_cons]
    exact ⟨kept_of_free (by decide) (.string command), kept_of_free (by decide) (stored_orNull h),
      nofun⟩

/-- What is written for a message, in the order in which it is written. -/
def messageFields (m : Message) : Fields :=
  ("seq", .nat m.seq) :: ("type", .string m.kind) :: m.content.fields

theorem kept_message (h : CarriedMessage room m) : ∀ e ∈ messageFields m, Kept e := by
  simp only [messageFields, List.forall_mem_cons]
  refine ⟨⟨?_, stored_nat h.seq, fun _ => stored_nat h.seq⟩, ⟨?_, .string _, fun _ => .string _⟩,
    kept_content h.content⟩
  · simp [wrongFixed, Json.nat, asWord?]
  · simp [wrongFixed, asString?]

theorem nodup_messageFields (m : Message) : ((messageFields m).map (·.1)).Nodup := by
  obtain ⟨seq, kind, content⟩ := m
  cases content <;> simp [messageFields, Content.fields]

theorem required?_of_values {α : Type} {shape : Json → Option α} (hv : fields.values key = [v]) :
    fields.required? key shape = shape v := by
  rw [Fields.required?, hv]

theorem response?_absent (hv : fields.values "request_seq" = []) :
    Content.response? fields = none := by
  rw [Content.response?, Fields.required?, hv]
  rfl

theorem event?_absent (hv : fields.values "event" = []) : Content.event? fields = none := by
  rw [Content.event?, Fields.required?, hv]
  rfl

theorem optional?_carried {value : Option Json} (hv : fields.values key = [orNull id value])
    (h : Carried value) : fields.optional? key some = some value := by
  rw [Fields.optional?, hv]
  cases value with
  | none => rfl
  | some v =>
    have hnull : v ≠ .null := (h v rfl).1
    cases v <;> first | rfl | exact (hnull rfl).elim

theorem optional?_message {message : Option String}
    (hv : fields.values key = [orNull .string message]) :
    fields.optional? key asString? = some message := by
  rw [Fields.optional?, hv]
  cases message <;> rfl

/-- Exactly one content fits the fields. -/
theorem ofFields?_content (h : CarriedContent m.content) :
    Content.ofFields? (messageFields m) = some m.content := by
  obtain ⟨seq, kind, content⟩ := m
  cases content with
  | response requestSeq success command message body =>
    rw [Content.ofFields?, Content.response?, required?_of_values rfl, required?_of_values rfl,
      required?_of_values rfl, optional?_message rfl, optional?_carried rfl h.2]
    rfl
  | event name body =>
    rw [Content.ofFields?, response?_absent rfl, Content.event?, required?_of_values rfl,
      optional?_carried rfl h]
    rfl
  | request command arguments =>
    rw [Content.ofFields?, response?_absent rfl, event?_absent rfl, Content.request?,
      required?_of_values rfl, optional?_carried rfl h]
    rfl

theorem ofFields?_message (h : CarriedMessage room m) :
    Message.ofFields? (messageFields m) = some m := by
  have hseq : (messageFields m).values "seq" = [.nat m.seq] := by
    obtain ⟨seq, kind, content⟩ := m
    cases content <;> rfl
  have hkind : (messageFields m).values "type" = [.string m.kind] := by
    obtain ⟨seq, kind, content⟩ := m
    cases content <;> rfl
  have hword : asWord? (.nat m.seq) = some m.seq := by simp [asWord?, Json.nat]
  rw [Message.ofFields?, required?_of_values hseq, hword, required?_of_values hkind,
    ofFields?_content h.content]
  rfl

theorem bodyEnd_done (hdone : Passed ⟨[], .done (.object fields)⟩)
    (hm : Message.ofFields? fields = some m) :
    bodyEnd ⟨[], .done (.object fields)⟩ = .ok m := by
  change (checked ⟨[], .done (.object fields)⟩ >>= _) = _
  rw [hdone]
  simp only [bind, Except.bind, hm]
  rfl

theorem read_body (h : CarriedMessage room m) :
    Message.read (encode m.toJson.write.toList) = .ok m := by
  have hm := ofFields?_message h
  have hdone : Passed ⟨[], .done (.object (messageFields m))⟩ := by
    rw [Passed, checked, if_neg (by simp [ruledOut])]
    simp [hm]
  have hopen : Passes Passed .initial [0x7B] ⟨[.object [] ""], .firstKey⟩ :=
    .single rfl (passed_of_underWay rfl rfl) rfl (passed_of_underWay rfl rfl)
  have hfields : Passes Passed ⟨[.object [] ""], .firstKey⟩
      (encode (fieldsChars (messageFields m) ++ ['}'])) ⟨[], .done (.object (messageFields m))⟩ :=
    passes_fields (admitsAll_kept (kept_message h) (nodup_messageFields m) nofun nofun)
      (List.cons_ne_nil _ _) (.inr rfl) (passed_of_underWay rfl rfl)
      (fun key => by rw [closeContainer, List.append_nil, List.reverse_reverse]) hdone
  have hchars : m.toJson.write.toList = '{' :: (fieldsChars (messageFields m) ++ ['}']) := by
    rw [write, String.toList_ofList, Message.toJson, chars]
    rfl
  have hread := foldlM_bodyStep (hopen.append hfields)
  rw [Message.read, hchars, encode_cons]
  change List.foldlM bodyStep .initial ([0x7B] ++ _) >>= _ = _
  rw [hread]
  exact bodyEnd_done hdone hm

end TraceView.Proofs.Editor
