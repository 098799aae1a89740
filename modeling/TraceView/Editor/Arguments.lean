import TraceView.Editor.Message
import TraceView.Run.Launch
import TraceView.Text.Quoted

/-!
# Arguments of requests

Arguments are an object with named fields or an array of their values in order. Of several faults
the first in key order is reported, fields of the wrong type before missing ones.
-/

namespace TraceView.Editor

inductive ArgumentFault where
  | wrongType (found : Json) (expected : String)
  | wrongValue (found : Int) (expected : String)
  | missing (field : String)
  | tooShort (length : Nat) (expected : String)
  | tooLong (length : Nat)

/-- How a fault names a value. -/
def found : Json → String
  | .null => "null"
  | .bool b => "boolean `" ++ toString b ++ "`"
  | .number (.whole n) => "integer `" ++ toString n ++ "`"
  | .number (.real x) => "floating point `" ++ Json.layout.write x ++ "`"
  | .string s => "string " ++ Text.quoted s
  | .array _ => "sequence"
  | .object _ => "map"

def ArgumentFault.message : ArgumentFault → String
  | .wrongType v expected => "invalid type: " ++ found v ++ ", expected " ++ expected
  | .wrongValue n expected => "invalid value: integer `" ++ toString n ++ "`, expected " ++ expected
  | .missing field => "missing field `" ++ field ++ "`"
  | .tooShort length expected => "invalid length " ++ toString length ++ ", expected " ++ expected
  | .tooLong length =>
    "invalid length " ++ toString length ++ ", expected fewer elements in array"

inductive FieldType where
  | text
  | optionalText
  | optionalPath
  | flag
  | word
  | map
  deriving DecidableEq, Repr

def FieldType.isOptional : FieldType → Bool
  | .optionalText | .optionalPath => true
  | _ => false

def FieldType.check (t : FieldType) (v : Json) : Option ArgumentFault :=
  match t, v with
  | .text, .string _ | .optionalText, .string _ | .optionalPath, .string _ => none
  | .optionalText, .null | .optionalPath, .null => none
  | .flag, .bool _ => none
  | .map, .object _ => none
  | .word, .number (.whole n) => if 0 ≤ n then none else some (.wrongValue n "usize")
  | .text, v | .optionalText, v => some (.wrongType v "a string")
  | .optionalPath, v => some (.wrongType v "path string")
  | .flag, v => some (.wrongType v "a boolean")
  | .word, v => some (.wrongType v "usize")
  | .map, v => some (.wrongType v "a map")

structure Shape where
  name : String
  fields : List (String × FieldType)

namespace Shape

def title (shape : Shape) : String := "struct " ++ shape.name

def titleWithLength (shape : Shape) : String :=
  let n := shape.fields.length
  shape.title ++ " with " ++ toString n ++ if n = 1 then " element" else " elements"

def type? (shape : Shape) (key : String) : Option FieldType :=
  (shape.fields.find? (·.1 = key)).map (·.2)

def firstWrong? (shape : Shape) (fields : Fields) : Option ArgumentFault :=
  fields.findSome? fun e => (shape.type? e.1).bind (·.check e.2)

def firstMissing? (shape : Shape) (fields : Fields) : Option ArgumentFault :=
  (shape.fields.find? fun f => !f.2.isOptional && !Keyed.has fields f.1).map (.missing ·.1)

/-- Values of an array, given to the fields in order; `read` values came before. -/
def ofItems (shape : Shape) (read : Nat) :
    List (String × FieldType) → List Json → Except ArgumentFault Fields
  | [], [] => .ok []
  | [], items => .error (.tooLong (read + items.length))
  | f :: rest, [] =>
    if f.2.isOptional then shape.ofItems read rest []
    else .error (.tooShort read shape.titleWithLength)
  | f :: rest, v :: items =>
    match f.2.check v with
    | some fault => .error fault
    | none => do return (f.1, v) :: (← shape.ofItems (read + 1) rest items)

/-- The fields by name, all of the right type. -/
def read (shape : Shape) : Json → Except ArgumentFault Fields
  | .object fields =>
    match shape.firstWrong? fields, shape.firstMissing? fields with
    | some fault, _ => .error fault
    | none, some fault => .error fault
    | none, none => .ok fields
  | .array items => shape.ofItems 0 shape.fields items
  | v => .error (.wrongType v shape.title)

end Shape

namespace Fields

def text? (fs : Fields) (key : String) : Option String := Keyed.get? fs key >>= asString?

def text (fs : Fields) (key : String) : String := (fs.text? key).getD ""

end Fields

open TraceView.Run (DocumentId)

structure DocumentArgs where
  document : DocumentId
  text : Option String
  path : Option Path

structure ToggleArgs where
  value : Bool

structure VisibleRangeArgs where
  document : DocumentId
  line : Nat

structure VariablesArgs where
  document : DocumentId
  values : Fields

abbrev Parsed := Except ArgumentFault

def DocumentArgs.shape : Shape :=
  ⟨"DocumentArgs", [("document", .text), ("text", .optionalText), ("path", .optionalPath)]⟩

def DocumentArgs.read (v : Json) : Parsed DocumentArgs := do
  let fs ← shape.read v
  return ⟨fs.text "document", fs.text? "text", fs.text? "path"⟩

def ToggleArgs.shape : Shape := ⟨"ToggleArgs", [("value", .flag)]⟩

def ToggleArgs.read (v : Json) : Parsed ToggleArgs := do
  let fs ← shape.read v
  return ⟨(Keyed.get? fs "value" >>= asBool?).getD false⟩

def VisibleRangeArgs.shape : Shape :=
  ⟨"VisibleRangeArgs", [("document", .text), ("line", .word)]⟩

def VisibleRangeArgs.read (v : Json) : Parsed VisibleRangeArgs := do
  let fs ← shape.read v
  return ⟨fs.text "document", (Keyed.get? fs "line" >>= asWord?).getD 0⟩

def VariablesArgs.shape : Shape :=
  ⟨"VariablesArgs", [("document", .text), ("variables", .map)]⟩

def VariablesArgs.read (v : Json) : Parsed VariablesArgs := do
  let fs ← shape.read v
  return ⟨fs.text "document", match Keyed.get? fs "variables" with
    | some (.object values) => values
    | _ => []⟩

end TraceView.Editor
