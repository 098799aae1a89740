import TraceView.Editor.Arguments

/-!
# What is wrong with a body

A body that is no message is described by a reason and the place where reading gives up: a line and
a number of bytes in it. The state of the reader at that place tells the reason.
-/

namespace TraceView.Editor

open TraceView.Json (Mode State StringPart)

/-- A reason, and how many bytes of the body come before its place. -/
structure Diagnosis where
  reason : String
  offset : Nat
  deriving DecidableEq, Repr

namespace Diagnosis

/-- Nothing begins a value with this byte, or the value would be nested too deeply. -/
def valueReason (stack : List Json.Frame) (b : UInt8) : String :=
  if b = 0x5B ∨ b = 0x7B then "recursion limit exceeded"
  else
    match stack with
    | .array (_ :: _) :: _ => if b = 0x5D then "trailing comma" else "expected value"
    | _ => "expected value"

def stringReason (part : StringPart) (b : UInt8) : String :=
  match part with
  | .plain =>
    if b = 0x22 then "invalid unicode code point"
    else "control character (\\u0000-\\u001F) found while parsing a string"
  | .escape => "invalid escape"
  | .unit _ read =>
    if (Json.unitValue? (b :: read)).isSome then "lone leading surrogate in hex escape"
    else "invalid escape"
  | .secondEscape _ | .secondUnit _ => "unexpected end of hex escape"

def outOfRange : String := "number out of range"

/-- Why a byte cannot come next. A digit can be too much for an exponent only. -/
def byteReason (s : State) (b : UInt8) : String :=
  match s.mode with
  | .value | .firstItem => valueReason s.stack b
  | .firstKey => "key must be a string"
  | .key => if b = 0x7D then "trailing comma" else "key must be a string"
  | .colon => "expected `:`"
  | .afterItem => "expected `,` or `]`"
  | .afterField => "expected `,` or `\x7d`"
  | .done _ => "trailing characters"
  | .literal _ _ => "expected ident"
  | .string _ _ part => stringReason part b
  | .numeral draft => if draft.part = .exponentDigits then outOfRange else "invalid number"

/-- Why a text cannot end here. -/
def endReason : Mode → String
  | .firstItem | .afterItem => "EOF while parsing a list"
  | .firstKey | .colon | .afterField => "EOF while parsing an object"
  | .string _ _ _ => "EOF while parsing a string"
  | .value | .key | .literal _ _ | .numeral _ | .done _ => "EOF while parsing a value"

def messageTitle : String := "struct HostMessage"

def wrongType (v : Json) (expected : String) : String :=
  (ArgumentFault.wrongType v expected).message

/-- What is wrong with the number or the type of a message. -/
def fixedReason (key : String) (v : Json) : String :=
  if key = "seq" then
    match v with
    | .number (.whole n) => (ArgumentFault.wrongValue n "u64").message
    | v => wrongType v "u64"
  else wrongType v "a string"

def closedReason (fs : Fields) : String :=
  match ["seq", "type"].find? fun key => (fs.values key).isEmpty with
  | some key => (ArgumentFault.missing key).message
  | none => "data did not match any variant of untagged enum HostMessageContent"

/-- After a key that is there twice, blanks and the end of the object are still passed over. -/
def passedOver (rest : List UInt8) : Nat :=
  let blanks := (rest.takeWhile Json.isBlankByte).length
  if rest[blanks]? = some 0x7D then blanks + 1 else blanks

/-- Why a state rules a message out; `seen` bytes led to it. A bracket that opens a container in
the place of something else is not counted. -/
def shapeDiagnosis (s : State) (seen : Nat) (rest : List UInt8) : Diagnosis :=
  match s.mode, s.stack with
  | .done (.object fs), _ => ⟨closedReason fs, seen⟩
  | .done v, _ => ⟨wrongType v messageTitle, seen⟩
  | .colon, [.object _ key] => ⟨"duplicate field `" ++ key ++ "`", seen + passedOver rest⟩
  | _, [.array _, .object _ key] => ⟨fixedReason key (.array []), seen - 1⟩
  | _, [.object _ _, .object _ key] => ⟨fixedReason key (.object []), seen - 1⟩
  | _, .object ((key, v) :: _) _ :: _ => ⟨fixedReason key v, seen⟩
  | _, _ => ⟨wrongType (.array []) messageTitle, seen - 1⟩

/-- The step on `b` fails. -/
def atByte (s : State) (seen : Nat) (b : UInt8) (rest : List UInt8) : Diagnosis :=
  match s.endNumeral b with
  | .error _ =>
    match s.mode with
    | .numeral draft =>
      if (draft.push b).isOk then ⟨outOfRange, seen⟩ else ⟨byteReason s b, seen + 1⟩
    | _ => ⟨byteReason s b, seen + 1⟩
  | .ok s =>
    if ruledOut s then shapeDiagnosis s seen (b :: rest)
    else
      match s.take b with
      | .error _ => ⟨byteReason s b, seen + 1⟩
      | .ok s => shapeDiagnosis s (seen + 1) rest

def atEnd (s : State) (seen : Nat) : Diagnosis :=
  match s.settle with
  | .error .malformed => ⟨outOfRange, seen⟩
  | .error .cut => ⟨endReason s.mode, seen⟩
  | .ok s => if ruledOut s then shapeDiagnosis s seen [] else ⟨endReason s.mode, seen⟩

def walk (s : State) (seen : Nat) : List UInt8 → Diagnosis
  | [] => atEnd s seen
  | b :: rest =>
    match bodyStep s b with
    | .ok s => walk s (seen + 1) rest
    | .error _ => atByte s seen b rest

/-- Of a body that is no message. -/
def ofBody (body : List UInt8) : Diagnosis := walk .initial 0 body

/-- A line and a column, for the place after some bytes. -/
def placeText (before : List UInt8) : String :=
  "line " ++ toString (before.count 0x0A + 1) ++
    " column " ++ toString (before.reverse.takeWhile (· ≠ 0x0A)).length

def text (d : Diagnosis) (body : List UInt8) : String :=
  d.reason ++ " at " ++ placeText (body.take d.offset)

end Diagnosis

end TraceView.Editor
