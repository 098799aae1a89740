import TraceView.Shell.Settings

/-!
# What commands mean

The name of a command stands for a function, a command of the shell, or a program in one of the
directories where programs are looked for.
-/

namespace TraceView.Shell

open TraceView.Machine (Tree Program)

/-- Directories of a list, where nothing stands for the working directory. -/
def searchPath (list : String) : List Path :=
  (colonParts list.toList).map fun part => if part = [] then "." else String.ofList part

/-- Where programs are looked for if nothing else is said. -/
def standardPath : String := "/usr/local/sbin:/usr/local/bin:/usr/sbin:/usr/bin:/sbin:/bin"

/-- A name in the directories of a list. -/
def candidates (list name : String) : List String :=
  (colonParts list.toList).map fun dir =>
    if dir.isEmpty then name else String.ofList (dir ++ '/' :: name.toList)

/-- The first program of that name, else whether something else has the name. -/
def programAmong (tree : Tree) (cwd : Path) : List String → Except Bool String
  | [] => .error false
  | path :: rest =>
    match tree.find cwd (Text.unoctets path) with
    | .ok (_, .program _) => .ok path
    | .ok _ => (programAmong tree cwd rest).mapError fun _ => true
    | .error _ => programAmong tree cwd rest

/-- Where the program of a name is; what is found is remembered. -/
def locate (standard : Bool) (name : String) : Run (Except Bool String) := do
  let p ← self
  match if standard then none else Keyed.get? p.hashed name with
  | some path => return .ok path
  | none =>
    let list ← if standard then pure standardPath else valueOf "PATH"
    let found := programAmong (← world).tree p.cwd (candidates list name)
    if let .ok path := found then
      unless standard do setSelf fun p => { p with hashed := Keyed.insert p.hashed name path }
    return found

/-- Why there is no program, and the status that says so. -/
structure ProgramFault where
  text : String
  status : Nat

def ProgramFault.notFound (name : String) : ProgramFault := ⟨name ++ ": not found", 127⟩

def ProgramFault.denied (name : String) (status : Nat) : ProgramFault :=
  ⟨name ++ ": Permission denied", status⟩

def programAt (name path : String) : Run (Except ProgramFault Program) := do
  match (← world).tree.find (← self).cwd (Text.unoctets path) with
  | .ok (_, .program q) => return .ok q
  | .ok _ => return .error (.denied name 126)
  | .error _ => return .error (.notFound name)

def findProgram (standard : Bool) (name : String) : Run (Except ProgramFault Program) := do
  if name.toList.contains '/' then programAt name name
  else
    match ← locate standard name with
    | .error true => return .error (.denied name 127)
    | .error false => return .error (.notFound name)
    | .ok path => programAt name path

/-- What a name stands for. -/
inductive Meaning where
  | keyword
  | alias (text : String)
  | function
  | special
  | ordinary
  | program (path : String)
  /-- A program whose place is remembered. -/
  | remembered (path : String)
  | nothing

def meaningOf (standard : Bool) (name : String) : Run Meaning := do
  let p ← self
  if reservedWords.contains name then return .keyword
  if let some text := Keyed.get? p.aliases name then return .alias text
  if (Keyed.get? p.functions name).isSome then return .function
  if specialBuiltins.contains name then return .special
  if ordinaryBuiltins.contains name then return .ordinary
  if name.toList.contains '/' then
    let there := ((← world).tree.find p.cwd (Text.unoctets name)).toOption.isSome
    return if there then .program name else .nothing
  if !standard then
    if let some path := Keyed.get? p.hashed name then return .remembered path
  match ← locate standard name with
  | .ok path => return .program path
  | .error _ => return .nothing

def Meaning.sentence (name : String) : Meaning → String
  | .keyword => name ++ " is a shell keyword"
  | .alias text => name ++ " is an alias for " ++ text
  | .function => name ++ " is a shell function"
  | .special => name ++ " is a special shell builtin"
  | .ordinary => name ++ " is a shell builtin"
  | .program path => name ++ " is " ++ path
  | .remembered path => name ++ " is a tracked alias for " ++ path
  | .nothing => name ++ ": not found"

/-- How the name can be used in a command. -/
def Meaning.usage (name : String) : Meaning → Option String
  | .alias text => some ("alias " ++ aliasText name text)
  | .program path | .remembered path => some path
  | .nothing => none
  | _ => some name

def Meaning.status : Meaning → Nat
  | .nothing => 127
  | _ => 0

def typeCommand (args : List String) : Run Unit := do
  let meanings ← args.mapM fun name => return (name, ← meaningOf false name)
  put "type" (unlines (meanings.map fun (name, m) => m.sentence name))
  let written := (← self).status
  setStatus (meanings.foldl (fun n e => max n e.2.status) written)

/-- `command` where it only describes. -/
def describeCommand (args : List String) : Run Unit := do
  let o ← options "pvV" args
  match o.operands.head?, o.has 'V', o.has 'v' with
  | some name, true, _ =>
    let m ← meaningOf (o.has 'p') name
    put "command" (unlines [m.sentence name])
    setStatus m.status
  | some name, false, true =>
    let m ← meaningOf (o.has 'p') name
    put "command" (unlines (m.usage name).toList)
    setStatus m.status
  | _, _, _ => setStatus 0

/-- Remembered programs are listed by this number of their names. -/
def hashPlace (name : String) : Nat :=
  let cs := name.toList
  cs.foldl (fun n c => n + c.toNat) ((cs.head?.elim 0 Char.toNat) * 16) % 31

def hashEach (status : Nat) : List String → Run Unit
  | [] => setStatus status
  | name :: rest => do
    setSelf fun p => { p with hashed := Keyed.erase p.hashed name }
    match ← meaningOf false name with
    | .nothing =>
      complain (name ++ ": not found")
      hashEach 1 rest
    | _ => hashEach status rest

def hashCommand (args : List String) : Run Unit := do
  let o ← options "r" args
  if o.has 'r' then
    setSelf fun p => { p with hashed := [], status := 0 }
  else if o.operands = [] then
    let listed := (← self).hashed.mergeSort fun a b => hashPlace a.1 ≤ hashPlace b.1
    put "hash" (unlines (listed.map (·.2)))
  else hashEach 0 o.operands

end TraceView.Shell
