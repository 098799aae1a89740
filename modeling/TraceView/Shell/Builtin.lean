import TraceView.Shell.Format
import TraceView.Shell.Job
import TraceView.Shell.Lookup
import TraceView.Shell.Test

/-!
# Commands of the shell

The commands that a shell runs by itself and that run no other commands.
-/

namespace TraceView.Shell

def echoCommand (args : List String) : Run Unit := put "echo" (echoText args)

/-- Complaints come before the text. A format that cannot be used ends it early. -/
def printfCommand (args : List String) : Run Unit := do
  let o ← options "" args
  match o.operands with
  | [] => fail "usage: printf format [arg ...]"
  | format :: operands =>
    let p := printfText format operands
    for text in p.complaints.reverse do complain text
    if let some flaw := p.flaw then complain flaw
    put "printf" p.text.reverse
    if p.flaw.isSome then setStatus 2
    else if p.complaints ≠ [] then setStatus 1

def finder : Run Finder := do
  let cwd := (← self).cwd
  let tree := (← world).tree
  return fun path => (tree.find cwd (Text.unoctets path)).toOption

def answer (operands : List String) : Run Unit := do
  match test (← finder) operands with
  | .ok b => setStatus (if b then 0 else 1)
  | .error fault => fail fault.text

/-- What stands between brackets; the last operand must begin with the closing one. -/
def bracketCommand (args : List String) : Run Unit := do
  match args.getLast? with
  | some last => if last.toList.head? = some ']' then answer args.dropLast else fail "missing ]"
  | none => fail "missing ]"

def trapCommand (args : List String) : Run Unit := do
  let o ← options "" args
  if o.operands = [] then put "trap" (listTraps (← self).traps)
  else
    let (action, names) := trapAction o.operands
    setTraps action names

/-- No limits but the one on images of memory, of which there are none. -/
def ulimitCommand (args : List String) : Run Unit := do
  let o ← options "HSatfdscmlpnvwr" args
  if o.operands = [] then put "ulimit" (unlines [if o.has 'c' then "0" else "unlimited"])
  else setStatus 0

def noTime : String := "0m0.000000s 0m0.000000s"

/-- Outside of loops nothing happens. -/
def leave (args : List String) (stop : Nat → Stop) : Run Unit := do
  let n ← match args with
    | [] => pure 1
    | a :: _ => operandNumber a
  if n = 0 then fail "Illegal number: 0"
  setStatus 0
  let loops := (← self).loops
  if loops ≠ 0 then throw (stop (min n loops))

/-- What a command does, if it runs no others. -/
def builtin? (name : String) (args : List String) : Option (Run Unit) :=
  match name with
  | ":" | "true" => some (setStatus 0)
  | "false" => some (setStatus 1)
  | "echo" => some (echoCommand args)
  | "printf" => some (printfCommand args)
  | "test" => some (answer args)
  | "[" => some (bracketCommand args)
  | "pwd" => some (pwdCommand args)
  | "cd" | "chdir" => some (cdCommand args)
  | "read" => some (readCommand args)
  | "export" => some (exportCommand args)
  | "readonly" => some (readonlyCommand args)
  | "local" => some (localCommand args)
  | "unset" => some (unsetCommand args)
  | "set" => some (setCommand args)
  | "shift" => some (shiftCommand args)
  | "getopts" => some (getoptsCommand args)
  | "alias" => some (aliasCommand args)
  | "unalias" => some (unaliasCommand args)
  | "umask" => some (umaskCommand args)
  | "ulimit" => some (ulimitCommand args)
  | "times" => some (put "times" (unlines [noTime, noTime]))
  | "trap" => some (trapCommand args)
  | "kill" => some (killCommand args)
  | "wait" => some (waitCommand args)
  | "jobs" => some (jobsCommand args)
  | "bg" | "fg" => some (moveJob args)
  | "type" => some (typeCommand args)
  | "command" => some (describeCommand args)
  | "hash" => some (hashCommand args)
  | "break" => some (leave args .leaveLoop)
  | "continue" => some (leave args .nextRound)
  | _ => none

end TraceView.Shell
