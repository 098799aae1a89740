import TraceView.Settings.Basic
import TraceView.Toml.Document
import TraceView.Toml.Excerpt

/-!
# The settings file

A TOML document. Every field may be missing, unknown ones are ignored, and of several of the wrong
type the first in the document is reported.
-/

namespace TraceView.Settings

/-- What is wrong with a document, and the part that shows it if that is known. -/
structure Misfit where
  detail : String
  span : Option Toml.Span
  deriving DecidableEq, Repr

abbrev Reading := Except Misfit

def misfit {α : Type} (detail : String) : Reading α :=
  .error ⟨detail, none⟩

/-- The innermost part that is known counts. -/
def locate {α : Type} (span : Option Toml.Span) (r : Reading α) : Reading α :=
  r.mapError fun m => { m with span := m.span.or span }

def wrongType {α : Type} (v : Toml) (expected : String) : Reading α :=
  misfit ("invalid type: " ++ v.unexpected ++ ", expected " ++ expected)

def asWord (v : Toml) : Reading Nat :=
  match v with
  | .integer n =>
    if 0 ≤ n then .ok n.toNat
    else misfit ("invalid value: " ++ v.unexpected ++ ", expected u64")
  | v => wrongType v "u64"

def asString (expected : String) : Toml → Reading String
  | .string s => .ok s
  | v => wrongType v expected

def asBool : Toml → Reading Bool
  | .boolean b => .ok b
  | v => wrongType v "a boolean"

/-- A variant may also be the only key of a table; then nothing may be in it. -/
def emptyContent : Toml → Reading Unit
  | .table _ [] | .array [] | .tables [] => .ok ()
  | .table .. | .array _ => misfit "expected empty table"
  | .tables _ => misfit "expected empty array"
  | v => misfit ("expected table, found " ++ v.typeName)

def variant {α : Type} (options : List (String × α)) (name : String) : Reading α :=
  match options.find? (·.1 = name) with
  | some (_, a) => .ok a
  | none => misfit ("unknown variant `" ++ name ++ "`, expected " ++
      String.intercalate " or " (options.map fun o => "`" ++ o.1 ++ "`"))

def asVariant {α : Type} (options : List (String × α)) : Toml → Reading α
  | .string s => variant options s
  | .table _ [] => misfit "wanted exactly 1 element, found 0 elements"
  | .table _ [e] => do
    let a ← locate e.key.span (variant options e.key.name)
    locate e.span (emptyContent e.value)
    return a
  | .table .. => misfit "wanted exactly 1 element, more than 1 element"
  | _ => misfit "wanted string or table"

def whenVariants : List (String × WhenToExecute) :=
  [WhenToExecute.afterDelay, .onSave].map fun w => (w.name, w)

def deliveryVariants : List (String × SourceDelivery) :=
  [SourceDelivery.stdinAndFile, .stdin].map fun d => (d.name, d)

def asPath (v : Toml) : Reading Path := asString "path string" v

def setField (s : Settings) (key : String) (v : Toml) : Reading Settings :=
  match key with
  | "when_to_execute" => do return { s with whenToExecute := ← asVariant whenVariants v }
  | "delay_ms" => do return { s with delay := ← asWord v }
  | "python_path" => do return { s with pythonPath := some (← asPath v) }
  | "tracer_module" => do return { s with tracerModule := ← asString "a string" v }
  | "tracer_args" => do return { s with tracerArgs := ← asString "a string" v }
  | "source_delivery" => do return { s with sourceDelivery := ← asVariant deliveryVariants v }
  | "install_args" => do return { s with installArgs := ← asString "a string" v }
  | "show_source" => do return { s with showSource := ← asBool v }
  | "show_debug" => do return { s with showDebug := ← asBool v }
  | "workspace_root" => do return { s with workspaceRoot := some (← asPath v) }
  | "skip_landing_page" => do return { s with skipLandingPage := ← asBool v }
  | _ => .ok s

/-- A table without a part of its own is shown by its key. -/
def ofFields (fields : Toml.Fields) : Reading Settings :=
  fields.foldlM
    (fun s e => locate (e.span.getD e.key.span) (setField s e.key.name e.value))
    Settings.default

def excerpt (text : String) (m : Misfit) : String :=
  (m.span.map fun span => (Toml.Excerpt.ofSpan text span).text).getD ""

def ofText (path : Path) (text : String) : Except SettingsFault Settings :=
  match Toml.read? text with
  | none => .error (.syntaxError path)
  | some fields =>
    (ofFields fields).mapError fun m => .shape path (excerpt text m) m.detail

end TraceView.Settings
