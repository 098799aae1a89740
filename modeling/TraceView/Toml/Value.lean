import TraceView.Decimal.Shortest
import TraceView.Text.Quoted
import TraceView.Toml.Scan

/-!
# TOML values

Tables keep their fields in the order in which they were opened, with the places where they stand.
The form of a table says what may still be added to it. The value of a date is not kept.
-/

namespace TraceView

inductive Toml.Real where
  | finite (x : Double)
  | infinite (negative : Bool)
  | notANumber
  deriving DecidableEq, Repr

/-- How a table came to be. -/
inductive Toml.Form where
  /-- Written in braces, complete. -/
  | inline
  /-- Opened by a dotted key within braces. -/
  | inlineDotted
  /-- Opened by its own header, or the document. -/
  | header
  /-- Implied by the header of a table in it. -/
  | implied
  /-- Opened by a dotted key. -/
  | dotted
  deriving DecidableEq, Repr

/-- A key of a table as it is first written, its value and the part of the document that gives it. A
table that no header and no braces stand for has no part of its own. -/
structure Toml.Entry (α : Type) where
  key : Toml.Key
  value : α
  span : Option Toml.Span
  deriving Repr

inductive Toml where
  | string (s : String)
  | integer (n : Int)
  | real (x : Toml.Real)
  | boolean (b : Bool)
  | date
  | array (items : List Toml)
  | table (form : Toml.Form) (fields : List (Toml.Entry Toml))
  /-- Opened by headers in double brackets. -/
  | tables (items : List (List (Toml.Entry Toml)))
  deriving Repr

namespace Toml

abbrev Fields := List (Entry Toml)

def Real.text : Real → String
  | .finite x => DecimalLayout.fullWithPoint.write x
  | .infinite true => "-inf"
  | .infinite false => "inf"
  | .notANumber => "NaN"

/-- How an error names a value of the wrong type. -/
def unexpected : Toml → String
  | .string s => "string " ++ Text.quoted s
  | .integer n => "integer `" ++ toString n ++ "`"
  | .real x => "floating point `" ++ x.text ++ "`"
  | .boolean b => "boolean `" ++ toString b ++ "`"
  | .date => "map"
  | .array _ => "sequence"
  | .table .. => "map"
  | .tables _ => "sequence"

def typeName : Toml → String
  | .string _ => "string"
  | .integer _ => "integer"
  | .real _ => "float"
  | .boolean _ => "boolean"
  | .date => "datetime"
  | .array _ => "array"
  | .table .inline _ | .table .inlineDotted _ => "inline table"
  | .table .. => "table"
  | .tables _ => "array of tables"

end Toml

end TraceView
