/-!
# UTF-8

One reading of a byte sequence serves three uses: `none` stands for each longest run of bytes that
starts a character and breaks off, or for a byte that starts none. Strict reading wants no `none`,
lenient reading writes U+FFFD for it.
-/

namespace TraceView.Text.Utf8

def encode (cs : List Char) : List UInt8 :=
  cs.flatMap String.utf8EncodeChar

/-- A character of which `owed` bytes are missing; the next must lie between `low` and `high`. -/
structure Partial where
  owed : Nat
  low : Nat
  high : Nat
  value : Nat

inductive Start where
  | whole (c : Char)
  | more (p : Partial)
  | bad

/-- What a byte between characters opens. The narrower ranges after E0, ED, F0 and F4 keep out
long forms, surrogates and numbers past the last code point. -/
def Start.ofByte (b : Nat) : Start :=
  if b < 0x80 then .whole (Char.ofNat b)
  else if b < 0xC2 then .bad
  else if b < 0xE0 then .more ⟨1, 0x80, 0xBF, b - 0xC0⟩
  else if b = 0xE0 then .more ⟨2, 0xA0, 0xBF, 0⟩
  else if b = 0xED then .more ⟨2, 0x80, 0x9F, 0xD⟩
  else if b < 0xF0 then .more ⟨2, 0x80, 0xBF, b - 0xE0⟩
  else if b = 0xF0 then .more ⟨3, 0x90, 0xBF, 0⟩
  else if b < 0xF4 then .more ⟨3, 0x80, 0xBF, b - 0xF0⟩
  else if b = 0xF4 then .more ⟨3, 0x80, 0x8F, 4⟩
  else .bad

/-- Characters read so far, the last one first, and the one under way. -/
structure Progress where
  passed : List (Option Char)
  pending : Option Partial

def Progress.start (passed : List (Option Char)) (b : Nat) : Progress :=
  match Start.ofByte b with
  | .whole c => ⟨some c :: passed, none⟩
  | .more p => ⟨passed, some p⟩
  | .bad => ⟨none :: passed, none⟩

def Progress.push (s : Progress) (byte : UInt8) : Progress :=
  let b := byte.toNat
  match s.pending with
  | none => Progress.start s.passed b
  | some p =>
    if p.low ≤ b ∧ b ≤ p.high then
      let value := p.value * 64 + (b - 0x80)
      if p.owed ≤ 1 then ⟨some (Char.ofNat value) :: s.passed, none⟩
      else ⟨s.passed, some ⟨p.owed - 1, 0x80, 0xBF, value⟩⟩
    else Progress.start (none :: s.passed) b

def Progress.finish (s : Progress) : List (Option Char) :=
  match s.pending with
  | none => s.passed.reverse
  | some _ => (none :: s.passed).reverse

def decode (bytes : List UInt8) : List (Option Char) :=
  (bytes.foldl Progress.push ⟨[], none⟩).finish

/-- The text, if every byte belongs to a character. -/
def strict? (bytes : List UInt8) : Option String :=
  ((decode bytes).mapM id).map String.ofList

def lenient (bytes : List UInt8) : String :=
  String.ofList ((decode bytes).map (·.getD '\uFFFD'))

end TraceView.Text.Utf8
