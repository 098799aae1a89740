import TraceView.Editor.Message
import TraceView.Text.Quoted

/-!
# How a diagnostic shows a message
-/

namespace TraceView

def listText (items : List String) : String :=
  String.intercalate ", " items

mutual

def Json.summary : Json → String
  | .null => "Null"
  | .bool b => "Bool(" ++ toString b ++ ")"
  | .number n => "Number(" ++ n.text ++ ")"
  | .string s => "String(" ++ Text.quoted s ++ ")"
  | .array items => "Array [" ++ listText (summaries items) ++ "]"
  | .object fields => "Object \x7b" ++ listText (fieldSummaries fields) ++ "\x7d"

def Json.summaries : List Json → List String
  | [] => []
  | v :: rest => v.summary :: summaries rest

def Json.fieldSummaries : List (String × Json) → List String
  | [] => []
  | (k, v) :: rest => (Text.quoted k ++ ": " ++ v.summary) :: fieldSummaries rest

end

namespace Editor

def optionSummary {α : Type} (f : α → String) : Option α → String
  | none => "None"
  | some a => "Some(" ++ f a ++ ")"

def recordSummary (name : String) (fields : List (String × String)) : String :=
  name ++ " \x7b " ++ listText (fields.map fun f => f.1 ++ ": " ++ f.2) ++ " \x7d"

def Content.summary : Content → String
  | .response requestSeq success command message body =>
    recordSummary "Response" [("request_seq", toString requestSeq), ("success", toString success),
      ("command", Text.quoted command), ("message", optionSummary Text.quoted message),
      ("body", optionSummary Json.summary body)]
  | .event name body =>
    recordSummary "Event" [("event", Text.quoted name), ("body", optionSummary Json.summary body)]
  | .request command arguments =>
    recordSummary "Request" [("command", Text.quoted command),
      ("arguments", optionSummary Json.summary arguments)]

end Editor

end TraceView
