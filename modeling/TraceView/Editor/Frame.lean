import TraceView.Editor.Message
import TraceView.Fault
import TraceView.Text.Blank

/-!
# Frames

A message travels as header lines, a blank line and a body of the announced number of bytes. The
reader passes over blank lines before a header, ignores header lines it does not know, and takes
the last length announced. It makes room for the whole body before it reads the first byte of it,
so how it goes on depends on the room there is.
-/

namespace TraceView.Editor.Frame

def lengthHeader : String := "Content-Length:"

/-- The frame around a body. -/
def wrap (body : String) : String :=
  lengthHeader ++ " " ++ toString body.utf8ByteSize ++ "\r\n\r\n" ++ body

def write (m : Message) : String :=
  wrap m.toJson.write

inductive HeaderLine where
  | blank
  | length (n : Option Nat)
  | other

def isLineEnd (c : Char) : Bool := c = '\r' || c = '\n'

/-- What follows `Content-Length:` is a number or announces nothing. -/
def HeaderLine.ofChars (line : List Char) : HeaderLine :=
  match Text.dropEndWhile isLineEnd line with
  | [] => .blank
  | cs =>
    if lengthHeader.toList.isPrefixOf cs then
      .length (Text.signedWordValue? (Text.trimChars (cs.drop lengthHeader.length)))
    else .other

/-- How the header before a body ends. -/
inductive HeaderEnd where
  /-- Nothing but blank lines was left. -/
  | none
  | broken (fault : Fault)
  | complete (length : Option Nat) (rest : List UInt8)
  deriving DecidableEq

def transportText (fault : Fault) : String :=
  "transport I/O failed: " ++ fault.message

def noLengthText : String := "message header without Content-Length"

def endOfInput : Fault := .ofKind .unexpectedEnd

def shortBody : Fault := ⟨.unexpectedEnd, "failed to fill whole buffer"⟩

/-- The header once a line of it is complete; `next` reads on. -/
def headerLine (started : Bool) (length : Option Nat) (line rest : List UInt8)
    (next : Bool → Option Nat → HeaderEnd) : HeaderEnd :=
  match Text.Utf8.strict? line.reverse with
  | none => .broken .notUtf8
  | some text =>
    match HeaderLine.ofChars text.toList with
    | .blank => if started then .complete length rest else next false length
    | .length n => next true n
    | .other => next true length

def atEnd (started : Bool) : HeaderEnd :=
  if started then .broken endOfInput else .none

/-- `line` holds the bytes of the current line in reverse. -/
def header (started : Bool) (length : Option Nat) (line : List UInt8) :
    List UInt8 → HeaderEnd
  | [] =>
    if line = [] then atEnd started
    else headerLine started length line [] fun started _ => atEnd started
  | b :: rest =>
    if b = 0x0A then
      headerLine started length line rest fun started length => header started length [] rest
    else header started length (b :: line) rest

inductive Reading where
  | message (m : Message)
  /-- The body is no message. -/
  | flawed (flaw : MessageFlaw) (body : List UInt8)
  /-- The header announces no length. -/
  | noLength
  /-- Nothing but blank lines was left. -/
  | finished
  | broken (fault : Fault)
  /-- There is no room for the body announced. Nothing is read after that. -/
  | crashed

/-- Does reading go on after it? -/
def Reading.goesOn : Reading → Bool
  | .message _ | .flawed .. | .noLength => true
  | .finished | .broken _ | .crashed => false

/-- No buffer is longer, on any machine. -/
def bufferMax : Nat := 9223372036854775807

/-- What the allocator of a machine grants. -/
structure Room where
  /-- The length of the longest buffer that is found room for. -/
  length : Nat
  fits : length ≤ bufferMax

/-- Room for every buffer. -/
def Room.most : Room := ⟨bufferMax, Nat.le_refl _⟩

def readBody (length : Nat) (rest : List UInt8) : Reading × List UInt8 :=
  if rest.length < length then (.broken shortBody, [])
  else
    let body := rest.take length
    ((match Message.read body with
      | .ok m => .message m
      | .error flaw => .flawed flaw body), rest.drop length)

/-- Reads one message; returns what is left of the input too. A reader that crashes never gets past
the header it crashed at. -/
def read (room : Room) (bytes : List UInt8) : Reading × List UInt8 :=
  match header false none [] bytes with
  | .none => (.finished, [])
  | .broken fault => (.broken fault, [])
  | .complete none rest => (.noLength, rest)
  | .complete (some n) rest => if n ≤ room.length then readBody n rest else (.crashed, bytes)

/-- Is a reading determined by what is there, whatever comes next? -/
def settled (room : Room) (bytes : List UInt8) : Bool :=
  let tail := (bytes.reverse.takeWhile (· ≠ 0x0A)).length
  match header false none [] (bytes.take (bytes.length - tail)) with
  | .none => false
  | .broken fault => fault.kind = .invalidData
  | .complete none _ => true
  | .complete (some n) rest => n ≤ rest.length + tail || room.length < n

/-- At least this many bytes must come before the next reading is settled. -/
def missing (room : Room) (bytes : List UInt8) : Nat :=
  match header false none [] bytes with
  | .complete (some n) rest => if n ≤ room.length then max 1 (n - rest.length) else 1
  | _ => 1

theorem headerLine_complete {started : Bool} {length n : Option Nat} {line rest tail : List UInt8}
    {next : Bool → Option Nat → HeaderEnd}
    (h : headerLine started length line rest next = .complete n tail) :
    (started = true ∧ tail = rest) ∨ ∃ b l, next b l = .complete n tail := by
  unfold headerLine at h
  split at h
  · simp at h
  · split at h
    · split at h
      · exact .inl ⟨by assumption, by simp_all⟩
      · exact .inr ⟨_, _, h⟩
    · exact .inr ⟨_, _, h⟩
    · exact .inr ⟨_, _, h⟩

theorem atEnd_ne_complete (started : Bool) (n : Option Nat) (tail : List UInt8) :
    atEnd started ≠ .complete n tail := by
  cases started <;> simp [atEnd]

/-- Of a header that was begun at least the line end of its blank line is read, unless that line
ends with the input. -/
theorem header_rest_le {bytes line tail : List UInt8} {started : Bool} {length n : Option Nat}
    (h : header started length line bytes = .complete n tail) : tail.length ≤ bytes.length := by
  induction bytes generalizing started length line with
  | nil =>
    unfold header at h
    split at h
    · exact (atEnd_ne_complete _ _ _ h).elim
    · rcases headerLine_complete h with ⟨_, rfl⟩ | ⟨_, _, h⟩
      · simp
      · exact (atEnd_ne_complete _ _ _ h).elim
  | cons b rest ih =>
    unfold header at h
    split at h
    · rcases headerLine_complete h with ⟨_, rfl⟩ | ⟨_, _, h⟩
      · simp
      · exact Nat.le_succ_of_le (ih h)
    · exact Nat.le_succ_of_le (ih h)

theorem header_rest_lt {bytes line tail : List UInt8} {length n : Option Nat}
    (h : header false length line bytes = .complete n tail) : tail.length < bytes.length := by
  induction bytes generalizing length line with
  | nil =>
    unfold header at h
    split at h
    · exact (atEnd_ne_complete _ _ _ h).elim
    · rcases headerLine_complete h with ⟨h, _⟩ | ⟨_, _, h⟩
      · simp at h
      · exact (atEnd_ne_complete _ _ _ h).elim
  | cons b rest ih =>
    unfold header at h
    split at h
    · rcases headerLine_complete h with ⟨h, _⟩ | ⟨_, _, h⟩
      · simp at h
      · exact Nat.lt_succ_of_le (header_rest_le h)
    · exact Nat.lt_succ_of_lt (ih h)

theorem read_rest_lt {room : Room} {bytes : List UInt8} (h : (read room bytes).1.goesOn = true) :
    (read room bytes).2.length < bytes.length := by
  unfold read at h ⊢
  split at h
  · simp [Reading.goesOn] at h
  · simp [Reading.goesOn] at h
  · rename_i tail e
    simpa [e] using header_rest_lt e
  · rename_i n tail e
    have := header_rest_lt e
    split at h
    · rename_i hn
      rw [if_pos hn]
      simp only [readBody]
      split
      · simp; omega
      · simp; omega
    · simp [Reading.goesOn] at h

/-- Every reading up to and including the one that ends the input. -/
def readAll (room : Room) (bytes : List UInt8) : List Reading :=
  if _h : (read room bytes).1.goesOn then (read room bytes).1 :: readAll room (read room bytes).2
  else [(read room bytes).1]
  termination_by bytes.length
  decreasing_by exact read_rest_lt _h

end TraceView.Editor.Frame
