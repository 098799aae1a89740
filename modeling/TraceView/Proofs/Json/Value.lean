import TraceView.Proofs.Json.Scalar
import TraceView.Proofs.KeyOrder

/-!
# Values as they are written

A value without doubles whose objects are in key order is read back from what is written for it.
The induction is on how the value is built; what is inside a container is read with that container
on the stack, so the property asked of the states on the way must hold for every stack that ends in
the given one.
-/

namespace TraceView.Proofs.Json

open TraceView TraceView.Json TraceView.Text.Utf8 TraceView.Proofs.Text TraceView.Proofs.KeyOrder

/-- Values that the program holds without loss, with at most so many containers around one another:
whole numbers of a word, no doubles, objects in key order. -/
inductive Stored : Nat → Json → Prop
  | null {n : Nat} : Stored n .null
  | bool {n : Nat} (b : Bool) : Stored n (.bool b)
  | whole {n : Nat} {i : Int} : FitsWord i → Stored n (.number (.whole i))
  | string {n : Nat} (text : String) : Stored n (.string text)
  | array {n : Nat} {items : List Json} : (∀ v ∈ items, Stored n v) → Stored (n + 1) (.array items)
  | object {n : Nat} {fields : List (String × Json)} : Ordered fields →
      (∀ e ∈ fields, Stored n e.2) → Stored (n + 1) (.object fields)

variable {P : State → Prop} {s t r : State} {stack : List Frame} {mode : Mode}

/-- The property holds of all states in which a value is under way inside the given containers. -/
def Within (P : State → Prop) (stack : List Frame) : Prop :=
  ∀ frames mode, isUnderWay mode = true → P ⟨frames ++ stack, mode⟩

theorem Within.here (h : Within P stack) (mode : Mode) (hm : isUnderWay mode = true) :
    P ⟨stack, mode⟩ :=
  h [] mode hm

theorem Within.push (h : Within P stack) (frame : Frame) : Within P (frame :: stack) := by
  intro frames mode hm
  have := h (frames ++ [frame]) mode hm
  rwa [List.append_assoc] at this

theorem passes_items {items : List Json} (hP : Within P stack)
    (hread : ∀ v ∈ items, ∀ done, Reads P (.array done :: stack) v) (hne : items ≠ [])
    {done : List Json} (hm : begins mode)
    (hd : P (deliver stack (.array (done.reverse ++ items)))) :
    Passes P ⟨.array done :: stack, mode⟩ (encode (itemsChars items ++ [']']))
      (deliver stack (.array (done.reverse ++ items))) := by
  induction items generalizing done mode with
  | nil => exact (hne rfl).elim
  | cons v rest ih =>
    obtain ⟨t, hpass, hheld⟩ := hread v List.mem_cons_self done mode hm
    have hafter : P (deliver (.array done :: stack) v) := (hP.push (.array (v :: done))).here _ rfl
    cases rest with
    | nil =>
      rw [itemsChars, encode_append]
      have hclose : State.take (deliver (.array done :: stack) v) 0x5D
          = .ok (deliver stack (.array (done.reverse ++ [v]))) := by
        simp [deliver, State.take, State.stepPlain, isBlankByte, closeContainer]
      exact hpass.append (.single (hheld.endNumeral rfl) hafter hclose hd)
    | cons w rest =>
      have hnext : P ⟨.array (v :: done) :: stack, .value⟩ := (hP.push _).here _ rfl
      have hrest : Passes P ⟨.array (v :: done) :: stack, .value⟩ _ _ :=
        ih (fun u hu => hread u (List.mem_cons_of_mem _ hu)) (List.cons_ne_nil _ _) (.inl rfl)
          (by simpa using hd)
      rw [List.reverse_cons, List.append_assoc] at hrest
      rw [itemsChars.eq_3 _ _ (by simp), List.append_assoc, encode_append]
      exact hpass.append (.cons (hheld.endNumeral rfl) hafter rfl hnext hrest)

theorem reads_array {items : List Json} (hroom : stack.length < deepest) (hP : Within P stack)
    (hread : ∀ v ∈ items, ∀ done, Reads P (.array done :: stack) v)
    (hd : P (deliver stack (.array items))) : Reads P stack (.array items) := by
  intro mode hm
  have hopen : Passes P ⟨stack, mode⟩ [0x5B] ⟨.array [] :: stack, .firstItem⟩ :=
    passes_begin hm (begins_holds hP.here hm) rfl (by decide)
      (by simp [startValue, openContainer, hroom]) ((hP.push _).here _ rfl)
  refine ⟨_, hopen.append ?_, .delivered⟩
  cases items with
  | nil => exact .single rfl ((hP.push _).here _ rfl) rfl hd
  | cons v rest => exact passes_items hP hread (List.cons_ne_nil _ _) (.inr rfl) hd

/-- The property holds while one more field is read, its value included. -/
structure Admits (P : State → Prop) (stack : List Frame) (done : List (String × Json))
    (old : String) (e : String × Json) : Prop where
  key : ∀ bytes part, P ⟨.object done old :: stack, .string true bytes part⟩
  colon : P ⟨.object done e.1 :: stack, .colon⟩
  value : P ⟨.object done e.1 :: stack, .value⟩
  reads : Reads P (.object done e.1 :: stack) e.2
  after : P ⟨.object (e :: done) e.1 :: stack, .afterField⟩
  next : P ⟨.object (e :: done) e.1 :: stack, .key⟩

/-- So it does with all fields that are to come. -/
def AdmitsAll (P : State → Prop) (stack : List Frame) (done : List (String × Json))
    (old : String) : List (String × Json) → Prop
  | [] => True
  | e :: rest => Admits P stack done old e ∧ AdmitsAll P stack (e :: done) e.1 rest

variable {done : List (String × Json)} {old : String}

/-- Where a key may begin. -/
def beginsKey (mode : Mode) : Prop :=
  mode = .key ∨ mode = .firstKey

theorem passes_field {e : String × Json} (h : Admits P stack done old e) (hm : beginsKey mode)
    (hp : P ⟨.object done old :: stack, mode⟩) :
    ∃ t, Passes P ⟨.object done old :: stack, mode⟩
        (encode (stringChars e.1 ++ ':' :: chars e.2)) t ∧
      Held (.object done e.1 :: stack) e.2 t := by
  obtain ⟨t, hpass, hheld⟩ := h.reads .value (.inl rfl)
  have hquote : Passes P ⟨.object done old :: stack, mode⟩ [0x22]
      ⟨.object done old :: stack, .string true [] .plain⟩ := by
    rcases hm with rfl | rfl <;> exact .single rfl hp rfl (h.key [] .plain)
  have hkey := passes_string h.key e.1 h.colon
  rw [encode_append]
  exact ⟨t, (hquote.append hkey).append (.cons rfl h.colon rfl h.value hpass), hheld⟩

theorem passes_fields {fields : List (String × Json)} (h : AdmitsAll P stack done old fields)
    (hne : fields ≠ []) (hm : beginsKey mode) (hp : P ⟨.object done old :: stack, mode⟩)
    (hclose : ∀ key, closeContainer (.object (fields.reverse ++ done) key :: stack) = .ok r)
    (hr : P r) :
    Passes P ⟨.object done old :: stack, mode⟩ (encode (fieldsChars fields ++ ['}'])) r := by
  induction fields generalizing done old mode with
  | nil => exact (hne rfl).elim
  | cons e rest ih =>
    obtain ⟨h, hrest⟩ := h
    obtain ⟨t, hpass, hheld⟩ := passes_field h hm hp
    cases rest with
    | nil =>
      rw [fieldsChars, encode_append]
      exact hpass.append (.single (hheld.endNumeral rfl) h.after (hclose e.1) hr)
    | cons e' rest =>
      have hrest := ih hrest (List.cons_ne_nil _ _) (.inl rfl) h.next (by simpa using hclose)
      rw [fieldsChars.eq_3 _ _ _ (by simp), show stringChars e.1 ++ ':' :: (chars e.2 ++ ',' ::
        fieldsChars (e' :: rest)) ++ ['}'] = (stringChars e.1 ++ ':' :: chars e.2) ++ ',' ::
        (fieldsChars (e' :: rest) ++ ['}']) by simp, encode_append]
      exact hpass.append (.cons (hheld.endNumeral rfl) h.after rfl h.next hrest)

theorem Within.admitsAll (hP : Within P stack) {fields : List (String × Json)}
    (hread : ∀ e ∈ fields, ∀ done, Reads P (.object done e.1 :: stack) e.2) :
    ∀ done old, AdmitsAll P stack done old fields := by
  induction fields with
  | nil => exact fun _ _ => trivial
  | cons e rest ih =>
    intro done old
    refine ⟨?_, ih (fun e he => hread e (List.mem_cons_of_mem _ he)) _ _⟩
    constructor
    · exact fun _ _ => (hP.push _).here _ rfl
    · exact (hP.push _).here _ rfl
    · exact (hP.push _).here _ rfl
    · exact hread e List.mem_cons_self done
    · exact (hP.push _).here _ rfl
    · exact (hP.push _).here _ rfl

theorem reads_object {fields : List (String × Json)} (hroom : stack.length < deepest)
    (hstack : stack ≠ []) (hordered : Ordered fields) (hP : Within P stack)
    (hread : ∀ e ∈ fields, ∀ done, Reads P (.object done e.1 :: stack) e.2)
    (hd : P (deliver stack (.object fields))) : Reads P stack (.object fields) := by
  intro mode hm
  have hopen : Passes P ⟨stack, mode⟩ [0x7B] ⟨.object [] "" :: stack, .firstKey⟩ :=
    passes_begin hm (begins_holds hP.here hm) rfl (by decide)
      (by simp [startValue, openContainer, hroom]) ((hP.push _).here _ rfl)
  have hclose : ∀ key, closeContainer (.object (fields.reverse ++ []) key :: stack)
      = .ok (deliver stack (.object fields)) := by
    intro key
    rw [closeContainer.eq_4 _ _ _ hstack, List.append_nil, List.reverse_reverse, ofFields,
      ofList_of_ordered hordered]
  refine ⟨_, hopen.append ?_, .delivered⟩
  cases fields with
  | nil => exact .single rfl ((hP.push _).here _ rfl) (hclose "") hd
  | cons e rest =>
    exact passes_fields (hP.admitsAll hread [] "") (List.cons_ne_nil _ _) (.inr rfl)
      ((hP.push _).here _ rfl) hclose hd

theorem Stored.reads_scalar {v : Json} (h : Stored 0 v)
    (hP : ∀ mode, isUnderWay mode = true → P ⟨stack, mode⟩) (hd : P (deliver stack v)) :
    Reads P stack v := by
  cases h with
  | null => exact reads_null hP hd
  | bool b => exact reads_bool hP b hd
  | whole hi => exact reads_whole hP hi
  | string text => exact reads_string hP text hd

/-- A stored value is read back, wherever in an object or array it stands. -/
theorem Stored.reads {n : Nat} {v : Json} (h : Stored n v) (hstack : stack ≠ [])
    (hroom : stack.length + n ≤ deepest) (hP : Within P stack) (hd : P (deliver stack v)) :
    Reads P stack v := by
  induction h generalizing stack with
  | null => exact reads_null hP.here hd
  | bool b => exact reads_bool hP.here b hd
  | whole hi => exact reads_whole hP.here hi
  | string text => exact reads_string hP.here text hd
  | @array n items _ ih =>
    refine reads_array (by omega) hP (fun v hv done => ?_) hd
    exact ih v hv (List.cons_ne_nil _ _) (by simp only [List.length_cons]; omega) (hP.push _)
      ((hP.push (.array (v :: done))).here _ rfl)
  | @object n fields hordered _ ih =>
    refine reads_object (by omega) hstack hordered hP (fun e he done => ?_) hd
    exact ih e he (List.cons_ne_nil _ _) (by simp only [List.length_cons]; omega) (hP.push _)
      ((hP.push (.object (e :: done) e.1)).here _ rfl)

end TraceView.Proofs.Json
