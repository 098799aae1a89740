import TraceView.Proofs.Editor.Body
import TraceView.Proofs.Editor.Stream

/-!
# Frames read back

What is written for a message is a header line with the number of bytes of the body, a blank line
and the body. Reading takes exactly these bytes, so frames that follow one another are read one
after the other.
-/

namespace TraceView.Proofs.Editor

open TraceView TraceView.Editor TraceView.Editor.Frame TraceView.Text TraceView.Text.Utf8
  TraceView.Proofs.Text TraceView.Proofs.Json

/-- The bytes on the wire. -/
def written (m : Message) : List UInt8 :=
  encode (write m).toList

/-- The header line of a frame, with the carriage return before its newline. -/
def lengthLine (n : Nat) : List Char :=
  lengthHeader.toList ++ ' ' :: Nat.toDigits 10 n ++ ['\r']

variable {n : Nat}

theorem announces_digits (n : Nat) : Announces n (' ' :: Nat.toDigits 10 n ++ ['\r']) := by
  obtain ⟨ds, hds, heq⟩ := toDigits_spells n
  rw [heq]
  exact @Announces.mk n [' '] [] ['\r'] ds (by decide) (.inl rfl) hds.ne_nil hds.digit hds.total
    (by decide)

theorem newline_notMem_lengthLine : '\n' ∉ lengthLine n := by
  intro h
  simp only [lengthLine, List.mem_append, List.mem_cons, List.not_mem_nil, or_false] at h
  rcases h with (h | h | h) | h
  · revert h
    decide
  · cases h
  · obtain ⟨ds, hds, heq⟩ := toDigits_spells n
    obtain ⟨d, hd, hbreak⟩ := List.mem_map.mp (heq ▸ h)
    exact absurd (isBlank_digitChar d (hds.digit d hd)) (by rw [hbreak]; decide)
  · cases h

theorem not_bare_lengthLine : ¬ Bare (lengthLine n) := by
  intro h
  exact absurd (h ':' (by simp [lengthLine, lengthHeader])) (by decide)

variable {room : Room} {m : Message}

/-- The frame of a message, in its parts. -/
def packetOf (m : Message) : Packet :=
  ⟨[], [lengthLine m.toJson.write.utf8ByteSize], ['\r'], encode m.toJson.write.toList⟩

theorem written_eq (m : Message) : written m = (packetOf m).bytes := by
  have hchars : (write m).toList = lengthLine m.toJson.write.utf8ByteSize ++
      ['\n', '\r', '\n'] ++ m.toJson.write.toList := by
    rw [write, wrap, Nat.toString_eq_ofList_toDigits, lengthLine]
    simp [String.toList_append]
  have hbreaks : encode ['\n', '\r', '\n'] = [0x0A] ++ lineBytes ['\r'] := by decide
  have hline (line : List Char) : lineBytes line = encode line ++ [0x0A] := rfl
  rw [written, hchars, encode_append, encode_append, hbreaks, packetOf, Packet.bytes,
    List.nil_append, List.flatMap_append, List.flatMap_singleton, List.flatMap_singleton,
    ← List.append_assoc, hline (lengthLine _)]

theorem framed_packetOf (h : CarriedMessage room m) : (packetOf m).Framed room where
  blanks := nofun
  lines := by
    simp only [packetOf, List.forall_mem_singleton]
    exact ⟨newline_notMem_lengthLine, not_bare_lengthLine⟩
  close := by
    have hreturn : Bare ['\r'] := by decide
    exact hreturn
  last := by
    have hlength : isLength (lengthLine m.toJson.write.utf8ByteSize) = true :=
      isLength_iff.mpr ⟨_, List.append_assoc ..⟩
    refine ⟨' ' :: Nat.toDigits 10 m.toJson.write.utf8ByteSize ++ ['\r'], ?_, ?_⟩
    · rw [packetOf, List.filter_singleton, hlength, ← List.append_assoc]
      rfl
    · rw [packetOf, length_encode]
      exact announces_digits _
  size := by
    rw [packetOf, length_encode]
    exact h.size

/-- A frame is read back, and nothing of what follows it. -/
theorem read_written (h : CarriedMessage room m) (rest : List UInt8) :
    read room (written m ++ rest) = (.message m, rest) := by
  have hreading : (packetOf m).reading = .message m := by
    rw [Packet.reading, packetOf, read_body h]
  rw [written_eq, (framed_packetOf h).read, hreading]

/-- Messages written one after another are read as they were, each as what it was, and then the
input is at its end. -/
theorem readAll_written (room : Room) (ms : List Message)
    (h : ∀ m ∈ ms, CarriedMessage room m) :
    readAll room (ms.flatMap written) = ms.map .message ++ [.finished] := by
  induction ms with
  | nil =>
    rw [readAll]
    rfl
  | cons m ms ih =>
    have hread := read_written (h m List.mem_cons_self) (ms.flatMap written)
    rw [List.flatMap_cons, readAll, hread, dif_pos (by rfl),
      ih fun m hm => h m (List.mem_cons_of_mem _ hm)]
    rfl

/-- A response whose fields would also make it a request, an event with escapes and characters of
several bytes, and a request without arguments. -/
def exchange : List Message :=
  [ ⟨1, "response", .response 7 false "open" (some "no \"file\"\n")
      (some (.object
        [("a", .array [.null, .bool true, .number (.whole (-3))]), ("b", .object [])]))⟩,
    ⟨2, "event", .event "render" (some (.string "é €\t🙂\u0001"))⟩,
    ⟨wordMax, "request", .request "disconnect" none⟩ ]

theorem carried_exchange : ∀ m ∈ exchange, CarriedMessage .most m := by
  simp only [exchange, List.forall_mem_cons]
  refine ⟨⟨by decide, ⟨by decide, ?_⟩, by decide +kernel⟩, ⟨by decide, ?_, by decide +kernel⟩,
    ⟨by decide, nofun, by decide +kernel⟩, nofun⟩
  · rintro v ⟨⟩
    refine ⟨nofun, .object (List.pairwise_pair.mpr (by decide)) ?_⟩
    simp only [List.forall_mem_cons]
    refine ⟨.array ?_, .object .nil nofun, nofun⟩
    simp only [List.forall_mem_cons]
    exact ⟨.null, .bool true, .whole ⟨by decide, by decide⟩, nofun⟩
  · rintro v ⟨⟩
    exact ⟨nofun, .string _⟩

theorem readAll_written_exchange : (∀ m ∈ exchange, CarriedMessage .most m) ∧
    readAll .most (exchange.flatMap written) = exchange.map .message ++ [.finished] :=
  ⟨carried_exchange, readAll_written .most exchange carried_exchange⟩

end TraceView.Proofs.Editor
