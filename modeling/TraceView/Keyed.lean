/-!
# Finite maps in key order

A map is the list of its entries in ascending key order. `insert` keeps the order and replaces an
entry of the same key, so a map is determined by what it looks up. The order itself is an invariant
of the operations, not of the type.
-/

namespace TraceView

abbrev Keyed (κ α : Type) := List (κ × α)

namespace Keyed

variable {κ α β : Type} [DecidableEq κ]

def get? (m : Keyed κ α) (k : κ) : Option α :=
  match m with
  | [] => none
  | e :: rest => if e.1 = k then some e.2 else get? rest k

def has (m : Keyed κ α) (k : κ) : Bool :=
  (get? m k).isSome

def keys (m : Keyed κ α) : List κ :=
  m.map (·.1)

def erase (m : Keyed κ α) (k : κ) : Keyed κ α :=
  m.filter (·.1 ≠ k)

def mapValues (f : κ → α → β) (m : Keyed κ α) : Keyed κ β :=
  m.map fun e => (e.1, f e.1 e.2)

@[simp] theorem get?_nil (k : κ) : get? ([] : Keyed κ α) k = none := rfl

theorem get?_erase (m : Keyed κ α) (k k' : κ) :
    get? (erase m k) k' = if k = k' then none else get? m k' := by
  induction m with
  | nil => simp [erase]
  | cons e rest ih => grind [erase, get?]

variable [LT κ] [DecidableLT κ]

def insert (m : Keyed κ α) (k : κ) (v : α) : Keyed κ α :=
  match m with
  | [] => [(k, v)]
  | e :: rest =>
    if k < e.1 then (k, v) :: e :: rest
    else if e.1 = k then (k, v) :: rest
    else e :: insert rest k v

/-- Of two entries with one key the later counts. -/
def ofList (entries : List (κ × α)) : Keyed κ α :=
  entries.foldl (fun m e => insert m e.1 e.2) []

/-- Changes the entry of `k`, if there is one. -/
def modify (m : Keyed κ α) (k : κ) (f : α → α) : Keyed κ α :=
  match get? m k with
  | none => m
  | some v => insert m k (f v)

theorem get?_insert (m : Keyed κ α) (k k' : κ) (v : α) :
    get? (insert m k v) k' = if k = k' then some v else get? m k' := by
  induction m with
  | nil => simp [insert, get?]
  | cons e rest ih => grind [insert, get?]

theorem get?_modify (m : Keyed κ α) (k k' : κ) (f : α → α) :
    get? (modify m k f) k' = if k = k' then (get? m k').map f else get? m k' := by
  cases h : get? m k <;> grind [modify, get?_insert]

end Keyed

end TraceView
