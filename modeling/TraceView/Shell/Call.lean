import TraceView.Shell.Expansion

/-!
# Calls

The words of a command are expanded until its name is known, because the name decides how the other
words are expanded. `command` before a name makes a special command an ordinary one.
-/

namespace TraceView.Shell

inductive Callee where
  | function (body : Command)
  | builtin
  | program

structure Call where
  /-- The fields before the name, and the name with the arguments. -/
  before : List String
  name : String
  args : List String
  callee : Callee
  /-- Does its failure end the shell? -/
  special : Bool
  /-- Do assignments hold only while it runs? -/
  passing : Bool
  /-- Is the program looked for where programs usually are? -/
  standard : Bool

def Call.isBuiltin (c : Call) (name : String) : Bool := c.callee matches .builtin && c.name = name

/-- Commands whose arguments may be assignments. -/
def takesAssignments (name : String) : Bool :=
  name = "alias" || name = "export" || name = "local" || name = "readonly"

section Opening

variable (output : Command → Run (List Char)) (fuel : Nat)

/-- The fields of the first word that has any, and the words after it. -/
def firstFields : List Word → Run (List String × List Word)
  | [] => return ([], [])
  | w :: rest => do
    match ← fields output fuel w with
    | [] => firstFields rest
    | found => return (found, rest)

/-- The fields so far, the place of the one looked at, and the words left. -/
structure Opening where
  fields : List String
  place : Nat
  words : List Word

def Opening.field (o : Opening) : String := (o.fields[o.place]?).getD ""

/-- Goes to the next field; false if there is none. -/
def Opening.next (o : Opening) : Run (Opening × Bool) := do
  if o.place + 1 < o.fields.length then return ({ o with place := o.place + 1 }, true)
  else
    let (found, words) ← firstFields output fuel o.words
    let o := { o with fields := o.fields ++ found, words }
    if found = [] then return (o, false) else return ({ o with place := o.place + 1 }, true)

/-- Goes from `command` to the name after it and says whether the standard path is asked for; none if
there is no name or something else is asked for. -/
def Opening.pass : Nat → Opening → Bool → Run (Opening × Option Bool)
  | 0, o, _ => return (o, none)
  | n + 1, o, standard => do
    let (o, there) ← o.next output fuel
    if !there then return (o, none)
    match o.field.toList with
    | ['-', '-'] =>
      let (o, there) ← o.next output fuel
      return (o, if there then some standard else none)
    | '-' :: c :: cs =>
      if (c :: cs).all (· = 'p') then Opening.pass n o true else return (o, none)
    | _ => return (o, some standard)

/-- What is known when the name is known. -/
structure Callable where
  opening : Opening
  callee : Callee
  standard : Bool

/-- `functions` says whether the name may be one of a function. -/
def callable : Nat → Opening → Bool → Bool → Run Callable
  | 0, o, _, standard => return ⟨o, .program, standard⟩
  | n + 1, o, functions, standard => do
    let name := o.field
    let known := (← self).functions
    match if functions then Keyed.get? known name else none with
    | some body => return ⟨o, .function body, standard⟩
    | none =>
      if name = "command" then
        match ← o.pass output fuel n standard with
        | (after, some standard) => callable n after false standard
        | (after, none) => return ⟨{ after with place := o.place }, .builtin, standard⟩
      else if specialBuiltins.contains name || ordinaryBuiltins.contains name then
        return ⟨o, .builtin, standard⟩
      else return ⟨o, .program, standard⟩

/-- The other words; assignments stay whole where they are arguments. -/
def otherFields (assignments : Bool) : List Word → Run (List String)
  | [] => return []
  | w :: rest => do
    let found ← match if assignments then assignment? w else none with
      | some (name, value) => do
        let s ← text output fuel .assigned value
        pure [name ++ "=" ++ s]
      | none => fields output fuel w
    return found ++ (← otherFields assignments rest)

def Call.ofWords (words : List Word) : Run (Option Call) := do
  match ← firstFields output fuel words with
  | ([], _) => return none
  | (first :: found, rest) =>
    let c ← callable output fuel fuel ⟨first :: found, 0, rest⟩ true false
    let name := c.opening.field
    let builtin := c.callee matches .builtin
    let others ← otherFields output fuel (builtin && takesAssignments name) c.opening.words
    let special := builtin && c.opening.place = 0 && specialBuiltins.contains name
    return some {
      before := c.opening.fields.take c.opening.place
      name
      args := c.opening.fields.drop (c.opening.place + 1) ++ others
      callee := c.callee
      special
      passing := !special
      standard := c.standard }

end Opening

end TraceView.Shell
