import TraceView.Editor.Host
import TraceView.Proofs.Editor.Header

/-!
# The reader of an input

`HeaderLoop` and `ReaderLoop` have one rule for each turn that the two loops of the reader can take:
a turn of the first takes a line of a header, and one of the second reads a message. Both loops end
on every input, since each turn that is followed by another one takes at least a byte. A call of the
reader comes back unless the header announces a body there is no room for, which on every machine is
so for one that no buffer can hold; then the loop ends as well, but the host does not hear of it and
goes on.
-/

namespace TraceView.Proofs.Editor

open TraceView TraceView.Editor TraceView.Editor.Frame TraceView.Text TraceView.Text.Utf8
  TraceView.Proofs.Text

/-- The next line of an input, without the newline at its end, and what comes after it. -/
inductive Line : List UInt8 → List UInt8 → List UInt8 → Prop where
  | ended {line rest} (h : 0x0A ∉ line) : Line (line ++ 0x0A :: rest) line rest
  | last {line} (h : 0x0A ∉ line) (hne : line ≠ []) : Line line line []

/-- What a line says; nothing if it is no text. -/
def said? (line : List UInt8) : Option HeaderLine :=
  (strict? line).map fun text => HeaderLine.ofChars text.toList

/-- The loop over the lines of a header. -/
inductive HeaderLoop : Bool → Option Nat → List UInt8 → HeaderEnd → Prop where
  | ended {started length} : HeaderLoop started length [] (atEnd started)
  | noText {started length bytes line rest} (hline : Line bytes line rest)
      (hsaid : said? line = none) : HeaderLoop started length bytes (.broken .notUtf8)
  | closed {length bytes line rest} (hline : Line bytes line rest)
      (hsaid : said? line = some .blank) : HeaderLoop true length bytes (.complete length rest)
  | passed {length bytes line rest e} (hline : Line bytes line rest)
      (hsaid : said? line = some .blank) (hrest : HeaderLoop false length rest e) :
      HeaderLoop false length bytes e
  | length {started length n bytes line rest e} (hline : Line bytes line rest)
      (hsaid : said? line = some (.length n)) (hrest : HeaderLoop true n rest e) :
      HeaderLoop started length bytes e
  | other {started length bytes line rest e} (hline : Line bytes line rest)
      (hsaid : said? line = some .other) (hrest : HeaderLoop true length rest e) :
      HeaderLoop started length bytes e

/-- The loop over the messages of an input. -/
inductive ReaderLoop (room : Room) : List UInt8 → List Reading → Prop where
  | stopped {bytes} (h : (read room bytes).1.goesOn = false) :
      ReaderLoop room bytes [(read room bytes).1]
  | goesOn {bytes readings} (h : (read room bytes).1.goesOn = true)
      (hrest : ReaderLoop room (read room bytes).2 readings) :
      ReaderLoop room bytes ((read room bytes).1 :: readings)

variable {room : Room} {started : Bool} {length : Option Nat} {bytes line rest : List UInt8}
  {e : HeaderEnd}

theorem Line.suffix (h : Line bytes line rest) : rest <:+ bytes := by
  cases h with
  | ended => exact (List.suffix_cons _ _).trans (List.suffix_append _ _)
  | last => exact List.nil_suffix

theorem Line.length_lt (h : Line bytes line rest) : rest.length < bytes.length := by
  cases h with
  | ended => rw [List.length_append, List.length_cons]; omega
  | last _ hne => exact List.length_pos_iff.mpr hne

theorem exists_line (h : bytes ≠ []) : ∃ line rest, Line bytes line rest := by
  by_cases hn : 0x0A ∈ bytes
  · obtain ⟨line, rest, rfl, hline⟩ := List.eq_append_cons_of_mem hn
    exact ⟨line, rest, .ended hline⟩
  · exact ⟨bytes, [], .last hn h⟩

/-- A line that ends with the input is read like one that ends in a newline. -/
theorem header_to_end (h : ∀ b ∈ bytes, b ≠ 0x0A) (front : List UInt8)
    (hne : bytes.reverse ++ front ≠ []) :
    header started length front bytes = headerLine started length (bytes.reverse ++ front) []
      fun started length => header started length [] [] := by
  induction bytes generalizing front with
  | nil =>
    have hfront : front ≠ [] := hne
    rw [header, if_neg hfront]
    rfl
  | cons b bytes ih =>
    rw [List.reverse_cons, List.append_assoc] at hne ⊢
    rw [header, if_neg (h b List.mem_cons_self)]
    exact ih (fun b hb => h b (List.mem_cons_of_mem _ hb)) (b :: front) hne

/-- A turn of the loop over the lines. -/
theorem header_turn (h : Line bytes line rest) (started : Bool) (length : Option Nat) :
    header started length [] bytes =
      match said? line with
      | none => .broken .notUtf8
      | some .blank => if started then .complete length rest else header false length [] rest
      | some (.length n) => header true n [] rest
      | some .other => header true length [] rest := by
  have hturn : header started length [] bytes = headerLine started length (line.reverse ++ []) rest
      fun started length => header started length [] rest := by
    cases h with
    | ended hn => exact header_through (fun b hb he => hn (he ▸ hb)) []
    | last hn hne => exact header_to_end (fun b hb he => hn (he ▸ hb)) [] (by simpa using hne)
  rw [hturn, List.append_nil, headerLine, List.reverse_reverse, said?]
  cases strict? line with
  | none => rfl
  | some text =>
    simp only [Option.map_some]
    cases HeaderLine.ofChars text.toList with
    | blank | length | other => rfl

theorem HeaderLoop.header_eq (h : HeaderLoop started length bytes e) :
    header started length [] bytes = e := by
  induction h with
  | ended => rfl
  | noText hline hsaid => rw [header_turn hline, hsaid]
  | closed hline hsaid => rw [header_turn hline, hsaid]; rfl
  | passed hline hsaid _ ih => rw [header_turn hline, hsaid]; exact ih
  | length hline hsaid _ ih => rw [header_turn hline, hsaid]; exact ih
  | other hline hsaid _ ih => rw [header_turn hline, hsaid]; exact ih

/-- The loop over the lines ends: every turn of it takes a line off the input. -/
theorem headerLoop_header (started : Bool) (length : Option Nat) (bytes : List UInt8) :
    HeaderLoop started length bytes (header started length [] bytes) := by
  by_cases hnil : bytes = []
  · rw [hnil]
    exact .ended
  obtain ⟨line, rest, hline⟩ := exists_line hnil
  have hlt : rest.length < bytes.length := hline.length_lt
  rw [header_turn hline]
  cases hsaid : said? line with
  | none => exact .noText hline hsaid
  | some said =>
    cases said with
    | blank =>
      cases started with
      | true => exact .closed hline hsaid
      | false => exact .passed hline hsaid (headerLoop_header false length rest)
    | length n => exact .length hline hsaid (headerLoop_header true n rest)
    | other => exact .other hline hsaid (headerLoop_header true length rest)
  termination_by bytes.length

theorem headerLoop_iff : HeaderLoop started length bytes e ↔ header started length [] bytes = e :=
  ⟨HeaderLoop.header_eq, fun h => h ▸ headerLoop_header started length bytes⟩

theorem HeaderLoop.suffix {n : Option Nat}
    (h : HeaderLoop started length bytes (.complete n rest)) : rest <:+ bytes := by
  generalize he : HeaderEnd.complete n rest = e at h
  induction h with
  | ended => exact absurd he.symm (atEnd_ne_complete _ _ _)
  | noText => cases he
  | closed hline =>
    cases he
    exact hline.suffix
  | passed hline _ _ ih | length hline _ _ ih | other hline _ _ ih =>
    exact (ih he).trans hline.suffix

theorem ofChars_blank {cs : List Char} (h : HeaderLine.ofChars cs = .blank) :
    ∀ c ∈ cs, c = '\r' ∨ c = '\n' := by
  rw [HeaderLine.ofChars] at h
  split at h
  · next hnil => exact fun c hc => isLineEnd_iff.mp (List.rdropWhile_eq_nil_iff.mp hnil c hc)
  · split at h
    · cases h
    · cases h

theorem encode_returns (h : ∀ b ∈ line, b = 0x0D) : encode (line.map fun _ => '\r') = line := by
  induction line with
  | nil => rfl
  | cons b line ih =>
    rw [List.forall_mem_cons] at h
    rw [List.map_cons, encode_cons, ih h.2, h.1]
    rfl

/-- A line is blank if it is nothing but carriage returns. -/
theorem said?_blank_iff (h : 0x0A ∉ line) : said? line = some .blank ↔ ∀ b ∈ line, b = 0x0D := by
  constructor
  · intro hsaid b hb
    obtain ⟨text, htext, hblank⟩ := Option.map_eq_some_iff.mp hsaid
    have hends := ofChars_blank hblank
    have hline : line = encode text.toList := by
      refine bytes_of_strict? htext fun c hc => ?_
      rcases hends c hc with rfl | rfl <;> decide
    obtain ⟨c, hc, hbyte⟩ := List.mem_flatMap.mp (hline ▸ hb)
    rcases hends c hc with rfl | rfl
    · exact List.mem_singleton.mp hbyte
    · rw [List.mem_singleton.mp hbyte] at hb
      exact absurd hb h
  · intro hall
    have hbare : Bare (line.map fun _ => '\r') := by
      intro c hc
      obtain ⟨_, -, rfl⟩ := List.mem_map.mp hc
      rfl
    rw [said?, ← encode_returns hall, strict?_encode, Option.map_some, String.toList_ofList,
      ofChars_bare hbare]

theorem Line.blank_iff (h : Line bytes line rest) :
    (∀ b ∈ bytes, b = 0x0D ∨ b = 0x0A) ↔
      said? line = some .blank ∧ ∀ b ∈ rest, b = 0x0D ∨ b = 0x0A := by
  have hline (hn : 0x0A ∉ line) : (∀ b ∈ line, b = 0x0D ∨ b = 0x0A) ↔ ∀ b ∈ line, b = 0x0D :=
    forall₂_congr fun b hb => or_iff_left fun he => hn (he ▸ hb)
  cases h with
  | ended hn =>
    rw [List.forall_mem_append, List.forall_mem_cons, hline hn, said?_blank_iff hn]
    simp
  | last hn hne =>
    rw [hline hn, said?_blank_iff hn]
    simp

theorem header_of_blank (length : Option Nat) (bytes : List UInt8)
    (h : ∀ b ∈ bytes, b = 0x0D ∨ b = 0x0A) : header false length [] bytes = .none := by
  by_cases hnil : bytes = []
  · rw [hnil]
    rfl
  obtain ⟨line, rest, hline⟩ := exists_line hnil
  have hlt : rest.length < bytes.length := hline.length_lt
  obtain ⟨hsaid, hrest⟩ := hline.blank_iff.mp h
  rw [header_turn hline, hsaid]
  exact header_of_blank length rest hrest
  termination_by bytes.length

/-- The input ends cleanly where there is nothing left but blank lines. -/
theorem header_none_iff : header started length [] bytes = .none ↔
    started = false ∧ ∀ b ∈ bytes, b = 0x0D ∨ b = 0x0A := by
  constructor
  · intro h
    rw [← headerLoop_iff] at h
    generalize he : HeaderEnd.none = e at h
    induction h with
    | @ended started _ =>
      refine ⟨?_, nofun⟩
      cases started with
      | false => rfl
      | true => cases he
    | noText | closed => cases he
    | passed hline hsaid _ ih => exact ⟨rfl, hline.blank_iff.mpr ⟨hsaid, (ih he).2⟩⟩
    | length _ _ _ ih | other _ _ _ ih => cases (ih he).1
  · rintro ⟨rfl, hblank⟩
    exact header_of_blank length bytes hblank

theorem readBody_comes_back (n : Nat) (rest : List UInt8) :
    (readBody n rest).1 ≠ .crashed ∧ (readBody n rest).1 ≠ .finished ∧
      (readBody n rest).2 <:+ rest := by
  rw [readBody]
  split
  · exact ⟨by simp, by simp, List.nil_suffix⟩
  · cases hbody : Message.read (rest.take n) with
    | ok m => exact ⟨by simp [hbody], by simp [hbody], List.drop_suffix _ _⟩
    | error flaw => exact ⟨by simp [hbody], by simp [hbody], List.drop_suffix _ _⟩

/-- What a call leaves is the end of the input. -/
theorem read_suffix (room : Room) (bytes : List UInt8) : (read room bytes).2 <:+ bytes := by
  rw [Frame.read]
  split
  · exact List.nil_suffix
  · exact List.nil_suffix
  · next h => exact (headerLoop_iff.mpr h).suffix
  · next n rest h =>
    split
    · exact (readBody_comes_back n rest).2.2.trans (headerLoop_iff.mpr h).suffix
    · exact List.suffix_rfl

/-- A call does not come back if there is no room for the body announced. -/
theorem read_crashed_iff : (read room bytes).1 = .crashed ↔
    ∃ n rest, HeaderLoop false none bytes (.complete (some n) rest) ∧ room.length < n := by
  simp only [headerLoop_iff]
  rw [Frame.read]
  split
  · next h => simp [h]
  · next h => simp [h]
  · next h => simp [h]
  · next n rest h =>
    split
    · next hn => simp [h, (readBody_comes_back n rest).1, hn]
    · next hn => simp [h, Nat.lt_of_not_le hn]

/-- A crash leaves everything as it was. -/
theorem read_of_crashed (h : (read room bytes).1 = .crashed) :
    read room bytes = (.crashed, bytes) := by
  obtain ⟨n, rest, hloop, hn⟩ := read_crashed_iff.mp h
  rw [Frame.read, headerLoop_iff.mp hloop]
  exact if_neg (Nat.not_le_of_lt hn)

theorem read_finished_iff : (read room bytes).1 = .finished ↔ ∀ b ∈ bytes, b = 0x0D ∨ b = 0x0A := by
  have hnone : header false none [] bytes = .none ↔ ∀ b ∈ bytes, b = 0x0D ∨ b = 0x0A :=
    header_none_iff.trans (and_iff_right rfl)
  rw [← hnone, Frame.read]
  split
  · next h => simp [h]
  · next h => simp [h]
  · next h => simp [h]
  · next n rest h =>
    split
    · simp [h, (readBody_comes_back n rest).2.1]
    · simp [h]

theorem ReaderLoop.readAll_eq {readings : List Reading} (h : ReaderLoop room bytes readings) :
    readAll room bytes = readings := by
  induction h with
  | stopped h => rw [readAll, dif_neg (by simp [h])]
  | goesOn h _ ih => rw [readAll, dif_pos h, ih]

/-- The loop over the messages ends: every turn of it that is followed by another one takes a byte
off the input. -/
theorem readerLoop_readAll (room : Room) (bytes : List UInt8) :
    ReaderLoop room bytes (readAll room bytes) := by
  rw [readAll]
  split
  · next h =>
    have hlt : (read room bytes).2.length < bytes.length := read_rest_lt h
    exact .goesOn h (readerLoop_readAll room (read room bytes).2)
  · next h => exact .stopped (by simpa using h)
  termination_by bytes.length

theorem ReaderLoop.length_le {readings : List Reading} (h : ReaderLoop room bytes readings) :
    readings.length ≤ bytes.length + 1 := by
  induction h with
  | stopped => exact Nat.le_add_left _ _
  | goesOn h _ ih =>
    have hlt := read_rest_lt h
    rw [List.length_cons]
    omega

/-- Only the last turn is one that the loop stops at. -/
theorem ReaderLoop.stops {readings : List Reading} (h : ReaderLoop room bytes readings) :
    ∃ passed last, readings = passed ++ [last] ∧ (∀ r ∈ passed, r.goesOn = true) ∧
      (last = .finished ∨ (∃ fault, last = .broken fault) ∨ last = .crashed) := by
  induction h with
  | @stopped bytes h =>
    refine ⟨[], (read room bytes).1, rfl, nofun, ?_⟩
    cases hread : (read room bytes).1 with
    | finished => exact .inl rfl
    | broken fault => exact .inr (.inl ⟨fault, rfl⟩)
    | crashed => exact .inr (.inr rfl)
    | message | flawed | noLength => simp [hread, Reading.goesOn] at h
  | @goesOn bytes readings h _ ih =>
    obtain ⟨passed, last, rfl, hpassed, hlast⟩ := ih
    exact ⟨(read room bytes).1 :: passed, last, rfl, List.forall_mem_cons.mpr ⟨h, hpassed⟩, hlast⟩

/-- On every input and on every machine the reader ends. It comes back from a call unless there is
no room for the body announced, has then taken a byte unless it stops, and stops cleanly only if
nothing but blank lines is left. -/
theorem reader_ends (room : Room) (bytes : List UInt8) :
    (∃! e, HeaderLoop false none bytes e) ∧
    ((read room bytes).1 = .crashed ↔
      ∃ n rest, HeaderLoop false none bytes (.complete (some n) rest) ∧ room.length < n) ∧
    (read room bytes).2 <:+ bytes ∧
    ((read room bytes).1.goesOn = true → (read room bytes).2.length < bytes.length) ∧
    ((read room bytes).1 = .finished ↔ ∀ b ∈ bytes, b = 0x0D ∨ b = 0x0A) ∧
    (∃! readings, ReaderLoop room bytes readings) ∧
    ∀ readings, ReaderLoop room bytes readings → readings.length ≤ bytes.length + 1 ∧
      ∃ passed last, readings = passed ++ [last] ∧ (∀ r ∈ passed, r.goesOn = true) ∧
        (last = .finished ∨ (∃ fault, last = .broken fault) ∨ last = .crashed) := by
  refine ⟨⟨_, headerLoop_header _ _ _, fun e h => h.header_eq.symm⟩, read_crashed_iff,
    read_suffix room bytes, read_rest_lt, read_finished_iff,
    ⟨_, readerLoop_readAll room bytes, fun readings h => h.readAll_eq.symm⟩, fun readings h => ?_⟩
  exact ⟨h.length_le, h.stops⟩

/-- A header that announces one byte more than fit into a buffer. -/
def oversized : List UInt8 := encode "Content-Length: 9223372036854775808\r\n\r\n".toList

theorem read_oversized (room : Room) : (read room oversized).1 = .crashed := by
  have hheader : header false none [] oversized = .complete (some (bufferMax + 1)) [] := by
    decide +kernel
  exact read_crashed_iff.mpr ⟨_, [], headerLoop_iff.mpr hheader, Nat.lt_succ_of_le room.fits⟩

/-- On no machine does the reader come back from every call, and then it never tells that the input
has ended. -/
theorem oversized_crashes :
    (¬ ∃ room : Room, ∀ bytes, (read room bytes).1 ≠ .crashed) ∧
      ReaderLoop .most oversized [.crashed] := by
  refine ⟨fun ⟨room, h⟩ => h oversized (read_oversized room), ?_⟩
  have hcrashed := read_oversized .most
  have hloop : ReaderLoop .most oversized [(read .most oversized).1] :=
    .stopped (congrArg Reading.goesOn hcrashed)
  rwa [hcrashed] at hloop

variable {h : Host}

theorem input_apply (h : Host) (event : Run.Event) : (h.apply event).input = h.input := by
  cases event with
  | launched process spec tag =>
    rw [Host.apply, Host.addChild]
    cases h.machine.run spec <;> rfl
  | killed process =>
    rw [Host.apply, Host.killChild]
    split
    · rfl
    · split <;> rfl
  | scratchMade | copyWritten | scratchRemoved | refused | logged => simp [Host.apply]

theorem input_stop (h : Host) : h.stop.input = h.input := by
  rw [Host.stop]
  split <;> rfl

theorem input_handle (h : Host) (m : Message) : (h.handle m).input = h.input := by
  have hfold : ∀ (events : List Run.Event) (h : Host),
      (events.foldl Host.apply h).input = h.input := by
    intro events
    induction events with
    | nil => exact fun _ => rfl
    | cons event events ih => exact fun h => (ih (h.apply event)).trans (input_apply h event)
  have hmove : (h.move (Server.handleMessage h.site m h.clock)).1.input = h.input := hfold _ _
  rw [Host.handle]
  split
  · next heq => rw [← hmove, heq]
  · next heq => rw [input_stop, ← hmove, heq]

/-- What a reading leads to takes nothing from the input. -/
theorem input_react (h : Host) (reading : Reading) : (h.react reading).input = h.input := by
  cases reading with
  | message m => exact input_handle h m
  | flawed | noLength | crashed => rfl
  | broken | finished => exact input_stop _

theorem serving_stop (h : Host) : h.stop.serving = false := by
  rw [Host.stop]
  split
  · rfl
  · next hserving => simpa using hserving

/-- A reading that the reader stops at ends the host too, unless it is a crash. -/
theorem serving_react {reading : Reading} (hstop : reading.goesOn = false)
    (hserving : (h.react reading).serving = true) : reading = .crashed := by
  cases reading with
  | crashed => rfl
  | message | flawed | noLength => cases hstop
  | broken | finished =>
    rw [Host.react, serving_stop] at hserving
    cases hserving

theorem crashed_of_readOn {fuel : Nat} (hlt : h.input.length < fuel)
    (hserving : (Host.readOn true fuel h).serving = true) :
    (read .most (Host.readOn true fuel h).input).1 = .crashed := by
  induction fuel generalizing h with
  | zero => exact absurd hlt (Nat.not_lt_zero _)
  | succ fuel ih =>
    let after := Host.react { h with input := (read .most h.input).2 } (read .most h.input).1
    have hafter : after.input = (read .most h.input).2 := input_react _ _
    have hturn : Host.readOn true (fuel + 1) h =
        if h.serving then
          if (read .most h.input).1.goesOn then Host.readOn true fuel after else after
        else h := by
      rw [Host.readOn, Bool.true_or, Bool.and_true]
    rw [hturn] at hserving ⊢
    split
    · next hon =>
      rw [if_pos hon] at hserving
      split
      · next hgoes =>
        rw [if_pos hgoes] at hserving
        refine ih ?_ hserving
        have hshort := read_rest_lt hgoes
        rw [hafter]
        omega
      · next hgoes =>
        rw [if_neg hgoes] at hserving
        have hcrashed : (read .most h.input).1 = .crashed :=
          serving_react (by simpa using hgoes) hserving
        rw [hafter, read_of_crashed hcrashed, hcrashed]
    · next hoff =>
      rw [if_neg hoff] at hserving
      exact absurd hserving hoff

/-- A host whose editor has closed its end goes on only if its reader has crashed. -/
theorem crashed_of_close (hserving : h.close.serving = true) :
    (read .most h.close.input).1 = .crashed :=
  crashed_of_readOn (Nat.lt_succ_self _) hserving

/-- A host whose reader has crashed takes no notice of the end of the input. -/
theorem close_of_crashed (hcrashed : (read .most h.input).1 = .crashed) : h.close = h := by
  rw [Host.close, Host.readOn, read_of_crashed hcrashed]
  simp [Host.react, Reading.goesOn]

end TraceView.Proofs.Editor
