import TraceView.Decimal.Double
import TraceView.Keyed

/-!
# JSON values

An object is a map in key order without repeated keys. A number is a whole number of 64 bits or a
finite double; `-0` and whole numbers outside the range are doubles.
-/

namespace TraceView

inductive Json.Number where
  | whole (n : Int)
  | real (x : Double)
  deriving DecidableEq, Repr

inductive Json where
  | null
  | bool (b : Bool)
  | number (n : Json.Number)
  | string (s : String)
  | array (items : List Json)
  | object (fields : List (String × Json))
  deriving Repr

namespace Json

/-- An object from fields in any order; of two with one key the later counts. -/
def ofFields (fields : List (String × Json)) : Json :=
  .object (Keyed.ofList fields)

def nat (n : Nat) : Json := .number (.whole n)

def field? (j : Json) (key : String) : Option Json :=
  match j with
  | .object fields => Keyed.get? fields key
  | _ => none

def ofOption {α : Type} (f : α → Json) : Option α → Json
  | none => .null
  | some a => f a

end Json

end TraceView
