import TraceView.Proofs.Editor.Header

/-!
# A stream stays in step

A frame may come after blank lines, with any header lines in any order, and with a body of any
bytes. As long as the last length announced is that of the body, reading ends where the frame does,
whether the body is a message or not. So what comes next is read as if it stood alone.
-/

namespace TraceView.Proofs.Editor

open TraceView TraceView.Editor TraceView.Editor.Frame TraceView.Text

/-- A frame as it may come: blank lines, header lines, the line that closes the header, and the
body. -/
structure Packet where
  blanks : List (List Char)
  lines : List (List Char)
  close : List Char
  body : List UInt8

/-- The bytes of a line, its newline included. -/
def lineBytes (line : List Char) : List UInt8 := Utf8.encode line ++ [0x0A]

def Packet.bytes (p : Packet) : List UInt8 :=
  (p.blanks ++ p.lines ++ [p.close]).flatMap lineBytes ++ p.body

/-- What a frame is read as. -/
def Packet.reading (p : Packet) : Reading :=
  match Message.read p.body with
  | .ok m => .message m
  | .error flaw => .flawed flaw p.body

/-- The last of the header lines that announce a length announces that of the body. -/
structure Packet.Framed (p : Packet) (room : Room) : Prop where
  blanks : ∀ line ∈ p.blanks, Bare line
  lines : ∀ line ∈ p.lines, '\n' ∉ line ∧ ¬ Bare line
  close : Bare p.close
  last : ∃ value, (p.lines.filter isLength).getLast? = some (lengthHeader.toList ++ value) ∧
    Announces p.body.length value
  size : p.body.length ≤ room.length

variable {room : Room} {started : Bool} {length : Option Nat} {line : List Char}
  {rest : List UInt8} {lines : List (List Char)} {p : Packet}

theorem header_bare (h : Bare line) : header started length [] (lineBytes line ++ rest) =
    if started then .complete length rest else header false length [] rest := by
  rw [lineBytes, List.append_assoc, List.singleton_append, header_line h.newline_notMem,
    ofChars_bare h]

theorem header_solid (hn : '\n' ∉ line) (h : ¬ Bare line) :
    header started length [] (lineBytes line ++ rest) =
      header true (if isLength line then lengthOf? line else length) [] rest := by
  rw [lineBytes, List.append_assoc, List.singleton_append, header_line hn, ofChars_solid hn h]
  by_cases hlength : isLength line = true
  · rw [if_pos hlength, if_pos hlength]
  · rw [if_neg hlength, if_neg hlength]

theorem header_blanks (h : ∀ line ∈ lines, Bare line) :
    header false length [] (lines.flatMap lineBytes ++ rest) = header false length [] rest := by
  induction lines with
  | nil => rfl
  | cons line lines ih =>
    rw [List.flatMap_cons, List.append_assoc, header_bare (h line List.mem_cons_self)]
    exact ih fun line hl => h line (List.mem_cons_of_mem _ hl)

/-- Of several header lines the last that announces a length counts. -/
theorem header_lines (h : ∀ line ∈ lines, '\n' ∉ line ∧ ¬ Bare line) :
    header started length [] (lines.flatMap lineBytes ++ rest) =
      header (started || !lines.isEmpty)
        ((lines.filter isLength).getLast?.elim length lengthOf?) [] rest := by
  induction lines generalizing started length with
  | nil => simp
  | cons line lines ih =>
    obtain ⟨hn, hbare⟩ := h line List.mem_cons_self
    rw [List.flatMap_cons, List.append_assoc, header_solid hn hbare,
      ih fun line hl => h line (List.mem_cons_of_mem _ hl), List.filter_cons]
    by_cases hlength : isLength line = true
    · rw [if_pos hlength, if_pos hlength, List.getLast?_cons]
      cases (lines.filter isLength).getLast? <;> simp
    · rw [if_neg hlength, if_neg hlength]
      simp

theorem Room.length_le (room : Room) : room.length ≤ wordMax :=
  room.fits.trans (by decide)

theorem Packet.Framed.header (h : p.Framed room) (rest : List UInt8) :
    Frame.header false none [] (p.bytes ++ rest) =
      .complete (some p.body.length) (p.body ++ rest) := by
  obtain ⟨value, hlast, hvalue⟩ := h.last
  have hne : p.lines ≠ [] := by
    intro hnil
    rw [hnil] at hlast
    cases hlast
  have hbytes : p.bytes ++ rest = p.blanks.flatMap lineBytes ++
      (p.lines.flatMap lineBytes ++ (lineBytes p.close ++ (p.body ++ rest))) := by
    rw [Packet.bytes, List.flatMap_append, List.flatMap_append, List.flatMap_singleton]
    simp only [List.append_assoc]
  rw [hbytes, header_blanks h.blanks, header_lines h.lines, header_bare h.close, hlast,
    Option.elim_some, lengthOf?_announces hvalue (h.size.trans (Room.length_le room)),
    if_pos (by simpa using hne)]

/-- A frame is read to its end, and nothing of what follows it. -/
theorem Packet.Framed.read (h : p.Framed room) (rest : List UInt8) :
    Frame.read room (p.bytes ++ rest) = (p.reading, rest) := by
  rw [Frame.read, h.header]
  simp only [if_pos h.size, readBody]
  rw [if_neg (by simp), List.take_left' rfl, List.drop_left' rfl]
  rfl

theorem Packet.goesOn_reading (p : Packet) : p.reading.goesOn = true := by
  rw [Packet.reading]
  split <;> rfl

/-- Whatever the bodies of frames are, each is read as itself, and then what follows them. -/
theorem readAll_packets (room : Room) (ps : List Packet) (h : ∀ p ∈ ps, p.Framed room)
    (rest : List UInt8) :
    (∀ p ∈ ps, ∀ rest, Frame.read room (p.bytes ++ rest) = (p.reading, rest)) ∧
      readAll room (ps.flatMap Packet.bytes ++ rest) =
        ps.map Packet.reading ++ readAll room rest := by
  refine ⟨fun p hp rest => (h p hp).read rest, ?_⟩
  induction ps with
  | nil => rfl
  | cons p ps ih =>
    have hread := (h p List.mem_cons_self).read (ps.flatMap Packet.bytes ++ rest)
    rw [List.flatMap_cons, List.append_assoc, readAll, hread, dif_pos p.goesOn_reading,
      ih fun p hp => h p (List.mem_cons_of_mem _ hp)]
    rfl

/-- A body that looks like a header and is no UTF-8, after a length that is none and one in a
spelling of its own; then a message. -/
def strayPackets : List Packet :=
  [ ⟨[['\r'], []], ["Content-Length: no".toList, "X-Länge: 7".toList,
      "Content-Length:\t+019 \r".toList, "content-length: 3\r".toList], [],
      Utf8.encode "Content-Length: 5\n".toList ++ [0xFF]⟩,
    ⟨[], ["Content-Length: 41\r".toList], ['\r'],
      Utf8.encode "\x7b\"seq\":1,\"type\":\"event\",\"event\":\"render\"\x7d".toList⟩ ]

theorem framed_strayPackets : ∀ p ∈ strayPackets, p.Framed .most := by
  have hstray : Announces 19 "\t+019 \r".toList :=
    @Announces.mk 19 ['\t'] ['+'] [' ', '\r'] [0, 1, 9] (by decide) (.inr rfl) (by decide)
      (by decide) rfl (by decide)
  have hplain : Announces 41 " 41\r".toList :=
    @Announces.mk 41 [' '] [] ['\r'] [4, 1] (by decide) (.inl rfl) (by decide) (by decide) rfl
      (by decide)
  simp only [strayPackets, List.forall_mem_cons]
  exact ⟨⟨by decide, by decide, by decide, ⟨_, by decide, hstray⟩, by decide⟩,
    ⟨by decide, by decide, by decide, ⟨_, by decide, hplain⟩, by decide⟩, nofun⟩

theorem readAll_packets_stray : (∀ p ∈ strayPackets, p.Framed .most) ∧
    strayPackets.map (·.reading matches .message _) = [false, true] ∧
    readAll .most (strayPackets.flatMap Packet.bytes ++ []) =
      strayPackets.map Packet.reading ++ [.finished] := by
  refine ⟨framed_strayPackets, by decide +kernel, ?_⟩
  rw [(readAll_packets .most strayPackets framed_strayPackets []).2, readAll]
  rfl

end TraceView.Proofs.Editor
