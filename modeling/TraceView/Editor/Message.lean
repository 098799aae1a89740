import TraceView.Json.Reader
import TraceView.Json.Writer

/-!
# Messages between editor and host

A message has a number, a type and one of three contents. Which content it is does not depend on
the type but on the fields: the first content fits whose required fields are there, have the right
shape and are not repeated. A null counts as an absent optional field.
-/

namespace TraceView.Editor

inductive Content where
  | response (requestSeq : Nat) (success : Bool) (command : String) (message : Option String)
      (body : Option Json)
  | event (name : String) (body : Option Json)
  | request (command : String) (arguments : Option Json)

structure Message where
  seq : Nat
  kind : String
  content : Content

/-- Why a body is no message: flawed JSON, or JSON of another shape. -/
inductive MessageFlaw where
  | cut
  | malformed
  | shape
  deriving DecidableEq, Repr

def MessageFlaw.ofJson : Json.Flaw → MessageFlaw
  | .cut => .cut
  | .malformed => .malformed

/-- Fields as they were read, where a key may be repeated. -/
abbrev Fields := List (String × Json)

namespace Fields

def values (fs : Fields) (key : String) : List Json :=
  (fs.filter (·.1 = key)).map (·.2)

/-- A field that must occur once, with a value of the right shape. -/
def required? {α : Type} (fs : Fields) (key : String) (shape : Json → Option α) : Option α :=
  match fs.values key with
  | [v] => shape v
  | _ => none

/-- A field that may be absent or null; none if it is repeated or has the wrong shape. -/
def optional? {α : Type} (fs : Fields) (key : String) (shape : Json → Option α) :
    Option (Option α) :=
  match fs.values key with
  | [] => some none
  | [.null] => some none
  | [v] => (shape v).map some
  | _ => none

end Fields

def asWord? : Json → Option Nat
  | .number (.whole n) => if 0 ≤ n then some n.toNat else none
  | _ => none

def asBool? : Json → Option Bool
  | .bool b => some b
  | _ => none

def asString? : Json → Option String
  | .string s => some s
  | _ => none

def Content.response? (fs : Fields) : Option Content := do
  let requestSeq ← fs.required? "request_seq" asWord?
  let success ← fs.required? "success" asBool?
  let command ← fs.required? "command" asString?
  let message ← fs.optional? "message" asString?
  let body ← fs.optional? "body" some
  return .response requestSeq success command message body

def Content.event? (fs : Fields) : Option Content := do
  let name ← fs.required? "event" asString?
  let body ← fs.optional? "body" some
  return .event name body

def Content.request? (fs : Fields) : Option Content := do
  let command ← fs.required? "command" asString?
  let arguments ← fs.optional? "arguments" some
  return .request command arguments

def Content.ofFields? (fs : Fields) : Option Content :=
  (Content.response? fs).or ((Content.event? fs).or (Content.request? fs))

def Message.ofFields? (fs : Fields) : Option Message := do
  let seq ← fs.required? "seq" asWord?
  let kind ← fs.required? "type" asString?
  let content ← Content.ofFields? fs
  return ⟨seq, kind, content⟩

def Message.ofJson? : Json → Option Message
  | .object fs => Message.ofFields? fs
  | _ => none

def orNull {α : Type} (f : α → Json) : Option α → Json
  | none => .null
  | some a => f a

def Content.fields : Content → Fields
  | .response requestSeq success command message body =>
    [ ("request_seq", .nat requestSeq), ("success", .bool success), ("command", .string command),
      ("message", orNull .string message), ("body", orNull id body) ]
  | .event name body => [("event", .string name), ("body", orNull id body)]
  | .request command arguments =>
    [("command", .string command), ("arguments", orNull id arguments)]

/-- The object in the order in which it is written, which is not key order. -/
def Message.toJson (m : Message) : Json :=
  .object ([("seq", .nat m.seq), ("type", .string m.kind)] ++ m.content.fields)

/-- The number and the type are looked at as soon as they are read, and what can be no message is
given up there, so of two flaws the one that comes first is reported. -/
def isFixedKey (key : String) : Bool := key = "seq" || key = "type"

/-- Does a value already read rule a message out? -/
def wrongFixed (e : String × Json) : Bool :=
  (e.1 = "seq" && (asWord? e.2).isNone) || (e.1 = "type" && (asString? e.2).isNone)

/-- Can what has been read no longer become a message? -/
def ruledOut (s : Json.State) : Bool :=
  match s.mode, s.stack with
  | .done (.object _), _ => false
  | .done _, _ => true
  | .colon, [.object fs key] => isFixedKey key && fs.any (·.1 = key)
  | _, [.object fs _] => (fs.head?.map wrongFixed).getD false
  | _, [_, .object _ key] => isFixedKey key
  | _, [.array _] => true
  | _, _ => false

/-- Passes a state of the JSON reader on; a closed object must be a message. -/
def checked (s : Json.State) : Except MessageFlaw Json.State :=
  if ruledOut s then .error .shape
  else
    match s.mode with
    | .done (.object fs) => if (Message.ofFields? fs).isSome then .ok s else .error .shape
    | _ => .ok s

def bodyStep (s : Json.State) (b : UInt8) : Except MessageFlaw Json.State := do
  let s ← checked (← (s.endNumeral b).mapError .ofJson)
  checked (← (s.take b).mapError .ofJson)

def bodyEnd (s : Json.State) : Except MessageFlaw Message := do
  let s ← checked (← s.settle.mapError .ofJson)
  match s.mode with
  | .done (.object fs) =>
    match Message.ofFields? fs with
    | some m => pure m
    | none => throw .shape
  | _ => throw .cut

def Message.read (body : List UInt8) : Except MessageFlaw Message :=
  body.foldlM bodyStep .initial >>= bodyEnd

end TraceView.Editor
