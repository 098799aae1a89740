import TraceView.Text.Lines
import TraceView.Text.Numeral

/-!
# Log lines

An entry has a level, the part of the program it comes from, a message and named values. The part
is not written; a filter decides by it. Characters that could steer a terminal are written as
numbers in the message, but not in the values.
-/

namespace TraceView.Log

inductive Level where
  | debug
  | info
  | warn
  deriving DecidableEq, Repr

/-- Parts of the program that log. -/
inductive Origin where
  | scheduler
  | launcher
  | server
  | hostLoop
  | interpreter
  deriving DecidableEq, Repr

structure Line where
  level : Level
  origin : Origin
  message : String
  values : List (String × String)
  deriving DecidableEq, Repr

def Level.text : Level → String
  | .debug => "DEBUG"
  | .info => "INFO"
  | .warn => "WARN"

/-- The name by which a filter refers to a part. -/
def Origin.path : Origin → String
  | .scheduler => "live_trace::scheduler::scheduler"
  | .launcher => "live_trace::scheduler::process"
  | .server => "live_trace::host::server"
  | .hostLoop => "live_trace::host"
  | .interpreter => "live_trace::interpreter"

/-- Characters below the space that get a number. -/
def isSteering (c : Char) : Bool :=
  c = '\x1b' || c = '\x07' || c = '\x08' || c = '\x0c' || c = '\x7f'

def guardChar (c : Char) : List Char :=
  if isSteering c then ['\\', 'x'] ++ Text.hexPadded 2 c.toNat
  else if 0x80 ≤ c.toNat ∧ c.toNat ≤ 0x9F then
    ['\\', 'u', '{'] ++ Text.hexDigits c.toNat ++ ['}']
  else [c]

def guardText (s : String) : String :=
  String.ofList (s.toList.flatMap guardChar)

def Line.text (line : Line) : String :=
  String.intercalate " " ([line.level.text, guardText line.message] ++
    line.values.map fun v => v.1 ++ "=" ++ v.2)

/-- An entry takes several lines if a text in it does. -/
def Line.lines (line : Line) : List String :=
  Text.lines line.text

end TraceView.Log
