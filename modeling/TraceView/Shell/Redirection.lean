import TraceView.Shell.Child
import TraceView.Shell.Expansion
import TraceView.Shell.Programs

/-!
# Redirections

All words of the redirections of a command are expanded before the first of them is made. One that
cannot be made leaves those before it in place.
-/

namespace TraceView.Shell

/-- Where a redirection leads, its words being expanded. -/
inductive Target where
  | file (mode : FileMode) (path : String)
  /-- None closes the descriptor. -/
  | descriptor (n : Option Nat)
  | document (number : Nat)

/-- Why a file cannot be opened, after what was tried. -/
def openFault (tried path missing : String) (fault : Fault) : String :=
  "cannot " ++ tried ++ " " ++ path ++ ": " ++
    (if fault.kind = .notFound || fault = .notADirectory then missing else plainText fault)

def openForReading (path : String) : Run Channel := do
  let cwd := (← self).cwd
  match (← world).tree.find cwd (Text.unoctets path) with
  | .ok (_, .directory) => return .directory
  | _ =>
    match ← readFile path with
    | .ok cs => newInput cs 0
    | .error fault => fail (openFault "open" path "No such file" fault)

def openForWriting (mode : FileMode) (path : String) : Run Channel := do
  let p ← self
  let tree := (← world).tree
  match tree.writePlace p.cwd (Text.unoctets path) with
  | .error fault => fail (openFault "create" path "Directory nonexistent" fault)
  | .ok place =>
    let protect := mode = .write && p.options.contains 'C'
    match tree.node? place with
    | some .nullDevice => return .null
    | some (.program _) =>
      fail ("cannot create " ++ path ++ if protect then ": File exists" else ": Permission denied")
    | node =>
      if protect && node.isSome then fail ("cannot create " ++ path ++ ": File exists")
      let keep := mode = .append || mode = .both
      setWorld fun w => { w with
        tree := if keep then w.tree.append place [] else w.tree.truncate place }
      return .file place

/-- A file opened for both is read where input is expected, and else written. -/
def openFile (n : Nat) (mode : FileMode) (path : String) : Run Channel := do
  match mode with
  | .read => openForReading path
  | .both =>
    let channel ← openForWriting .both path
    if n = 0 then openForReading path else return channel
  | mode => openForWriting mode path

section Targets

variable (output : Command → Run (List Char)) (fuel : Nat)

def badDescriptorName {α : Type} : Run α := do
  setLine (← self).readLine
  fail "Syntax error: Bad fd number"

def descriptorNamed (name : String) : Run (Option Nat) := do
  match name.toList with
  | ['-'] => return none
  | [c] => if c.isDigit then return some (c.toNat - '0'.toNat) else badDescriptorName
  | _ => badDescriptorName

def targetOf : Redirect → Run (Nat × Target)
  | .file n mode w => do return (n, .file mode (← text output fuel .text w))
  | .duplicate n w => do return (n, .descriptor (← descriptorNamed (← text output fuel .text w)))
  | .document n number => return (n, .document number)

/-- `kept` says whether the descriptor is set aside first, to be put back later. -/
def redirect (kept : Bool) : Nat × Target → Run Unit
  | (n, .file mode path) => do setDescriptor n (some (← openFile n mode path))
  | (n, .descriptor none) => setDescriptor n none
  | (n, .descriptor (some m)) => do
    if n ≠ m then
      match Keyed.get? (← self).descriptors m with
      | some channel => setDescriptor n (some channel)
      | none =>
        if kept then setDescriptor n none
        fail (toString m ++ ": Bad file descriptor")
  | (n, .document number) => do
    let w := (Keyed.get? (← world).documents number).getD []
    let cs ← text output fuel ⟨false, false, false⟩ w
    setDescriptor n (some (← newInput cs.toList 0))

/-- False if one of them cannot be made. -/
def redirectAll (targets : List (Nat × Target)) : Run Bool := do
  match ← observe (targets.forM (redirect output fuel true)) with
  | .error .failed => return false
  | r =>
    resume r
    return true

end Targets

/-- The descriptor that a redirection changes, if it changes one. -/
def changed? : Nat × Target → Option Nat
  | (n, .descriptor (some m)) => if n = m then none else some n
  | (n, _) => some n

/-- Puts back the descriptors that were redirected, and no others. -/
def Process.putBack (targets : List (Nat × Target)) (before : Keyed Nat Channel) (p : Process) :
    Process :=
  { p with descriptors := (targets.filterMap changed?).foldl (fun ds n =>
      match Keyed.get? before n with
      | some channel => Keyed.insert ds n channel
      | none => Keyed.erase ds n) p.descriptors }

/-- Runs something under redirections, which are undone afterwards unless they are to be kept and
nothing goes wrong. -/
def redirected (kept : Bool) (targets : List (Nat × Target)) (m : Run Unit) : Run Unit := do
  let before := (← self).descriptors
  match ← observe m with
  | .ok () => unless kept do setSelf (Process.putBack targets before)
  | .error stop =>
    setSelf (Process.putBack targets before)
    throw stop

end TraceView.Shell
