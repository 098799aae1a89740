import TraceView.Toml.Value

/-!
# What may be added to a table

A table is defined once, by its header, by a dotted key or in braces; only tables that are merely
implied, and the last of several with one header, may be opened again.
-/

namespace TraceView.Toml

def find? (fields : Fields) (key : Key) : Option (Entry Toml) :=
  fields.find? (·.key.name = key.name)

/-- Gives the entry of a key another value. -/
def set (fields : Fields) (key : Key) (v : Toml) : Fields :=
  fields.map fun e => if e.key.name = key.name then { e with value := v } else e

def remove (fields : Fields) (key : Key) : Fields :=
  fields.filter (·.key.name ≠ key.name)

/-- May a path whose tables get the form `new` lead through a table of that form? -/
def Form.leadsThrough (new form : Form) : Bool :=
  match new with
  | .inlineDotted => form = .inlineDotted
  | .dotted => form = .dotted || form = .implied
  | _ => form ≠ .inline && form ≠ .inlineDotted

/-- Changes the table at the end of a path that starts from a table with that form and these fields.
Tables on the way that are not there come to be, with the form `new`. Of several tables with one
header the last counts. -/
def within? {α : Type} (new form : Form) (fields : Fields) (path : List Key)
    (change : Form → Fields → Option (α × Fields)) : Option (α × Fields) :=
  match path with
  | [] => change form fields
  | key :: path =>
    match find? fields key with
    | none => do
      let (a, inner) ← within? new new [] path change
      return (a, fields ++ [⟨key, .table new inner, none⟩])
    | some ⟨_, .table form inner, _⟩ =>
      if new.leadsThrough form then do
        let (a, inner) ← within? new form inner path change
        return (a, set fields key (.table form inner))
      else none
    | some ⟨_, .tables items, _⟩ => do
      let (a, inner) ← within? new .header (← items.getLast?) path change
      return (a, set fields key (.tables (items.dropLast ++ [inner])))
    | some _ => none

/-- Path to the table that a key belongs to, and its last part. -/
def split? (path : List Key) : Option (List Key × Key) :=
  path.getLast?.map fun key => (path.dropLast, key)

/-- Adds a value under a dotted key to a table of the form `own`. Tables on the way get the form
`new`; the one that takes the value must have it, unless it is the table the key starts from. -/
def assign? (new own : Form) (fields : Fields) (keys : List Key) (v : Toml) (span : Span) :
    Option Fields := do
  let (path, key) ← split? keys
  let ((), fields) ← within? new own fields path fun form fields =>
    if form = (if path.isEmpty then own else new) ∧ (find? fields key).isNone then
      some ((), fields ++ [⟨key, v, some span⟩])
    else none
  return fields

/-- A document under construction: all but the table whose fields are being read, and that one. The
document itself is a table with an empty path. -/
structure Draft where
  root : Fields
  path : List Key
  isItem : Bool
  fields : Fields
  span : Span

def Draft.empty : Draft := ⟨[], [], false, [], ⟨0, 0⟩⟩

/-- Adds a table to those with the same header, all of which are one part of the document. -/
def pushItem? (fields : Fields) (key : Key) (item : Fields) (span : Span) : Option Fields :=
  match find? fields key with
  | some ⟨_, .tables items, before⟩ =>
    some (fields.map fun e =>
      if e.key.name = key.name then
        ⟨e.key, .tables (items ++ [item]), some ((before.getD span).to span)⟩
      else e)
  | _ => none

/-- Puts the table being read into its place. -/
def Draft.close? (d : Draft) : Option Fields :=
  match split? d.path with
  | none => some d.fields
  | some (path, key) => do
    let ((), root) ← within? .implied .header d.root path fun _ fields =>
      if d.isItem then (pushItem? fields key d.fields d.span).map ((), ·)
      else if (find? fields key).isNone then
        some ((), fields ++ [⟨key, .table .header d.fields, some d.span⟩])
      else none
    return root

/-- An implied table is opened by its header, with what is in it already. -/
def Draft.openTable? (d : Draft) (header : List Key) (span : Span) : Option Draft := do
  let (path, key) ← split? header
  let (held, root) ← within? .implied .header (← d.close?) path fun _ fields =>
    match find? fields key with
    | none => some (([] : Fields), fields)
    | some ⟨_, .table .implied inner, _⟩ => some (inner, remove fields key)
    | some _ => none
  return ⟨root, header, false, held, span⟩

def Draft.openItem? (d : Draft) (header : List Key) (span : Span) : Option Draft := do
  let (path, key) ← split? header
  let ((), root) ← within? .implied .header (← d.close?) path fun _ fields =>
    match find? fields key with
    | none => some ((), fields ++ [⟨key, .tables [], none⟩])
    | some ⟨_, .tables _, _⟩ => some ((), fields)
    | some _ => none
  return ⟨root, header, true, [], span⟩

/-- The part of a table ends with its last value. -/
def Draft.assign? (d : Draft) (keys : List Key) (v : Toml) (span : Span) : Option Draft := do
  return { d with
    fields := ← Toml.assign? .dotted .header d.fields keys v span
    span := d.span.to span }

end TraceView.Toml
