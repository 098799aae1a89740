import TraceView.Shell.Builtin
import TraceView.Shell.Call
import TraceView.Shell.Redirection
import TraceView.Shell.Start

/-!
# Running scripts

A command changes the process and the world it runs in and leaves a status. Fuel bounds how deep
commands are nested and how often a loop goes round; a run that needs more is stopped.
-/

namespace TraceView.Shell

open TraceView.Machine (Program)

/-- Does a loop go on after a round that ended this way? -/
def afterRound : Except Stop Unit → Run Bool
  | .ok () | .error (.nextRound 0) | .error (.nextRound 1) => return true
  | .error (.leaveLoop 0) | .error (.leaveLoop 1) => return false
  | .error (.leaveLoop (n + 1)) => throw (.leaveLoop n)
  | .error (.nextRound (n + 1)) => throw (.nextRound n)
  | .error stop => throw stop

def inLoop (m : Run Unit) : Run Unit := do
  let before := (← self).loops
  setSelf fun p => { p with loops := before + 1 }
  restoring m fun p => { p with loops := before }

/-- The signals with an action that have come, in order. -/
def takeSignals : Run (List Nat) := do
  checkDeadly
  let p ← self
  let w ← world
  let (here, later) := w.signals.partition (p.hasReceived w.clock)
  setWorld fun w => { w with signals := later }
  let numbers := (here.map (·.signal)).filter fun n =>
    !p.ignored.contains n && (Keyed.get? p.traps n).any (· ≠ "")
  return (numbers.mergeSort (· ≤ ·)).eraseDups

/-- Shows a command that is about to run. -/
def showCommand (errors : Option Channel) (mark : String) (words : List String) : Run Unit := do
  if let some channel := errors then
    let line := mark ++ String.intercalate " " words ++ "\n"
    let job := (← self).job
    setWorld (·.write job channel line.toList)

/-- Sets a variable for as long as a command runs. -/
def passVariable (name value : String) : Run Unit := do
  shadow name
  setVariable name value
  setSelf fun p => { p with vars := Keyed.modify p.vars name ({ · with exported := true }) }

/-- The file that a name stands for: one with a slash is a path. -/
def scriptPath (name : String) : Run String := do
  if name.toList.contains '/' then return name
  let list ← valueOf "PATH"
  let cwd := (← self).cwd
  let tree := (← world).tree
  match (candidates list name).find? fun path => tree.isFile cwd (Text.unoctets path) with
  | some path => return path
  | none => fail (name ++ ": not found")

/-- How many functions may be called within each other. -/
def deepestCall : Nat := 1000

/-- The commands that a pipe joins. -/
def Command.stages : Command → List Command
  | .pipe first rest => first :: rest.stages
  | c => [c]

def Redirect.descriptor : Redirect → Nat
  | .file n _ _ | .duplicate n _ | .document n _ => n

/-- The descriptors that a command as a whole redirects. -/
def Command.redirected : Command → List Nat
  | .simple _ _ _ rs | .group _ _ rs | .subshell _ _ rs => rs.map Redirect.descriptor
  | _ => []

/-- The places of programs are remembered before a pipe starts if they are named plainly. -/
def rememberPrograms : List Command → Run Unit
  | [] => return ()
  | .simple _ _ (w :: _) _ :: rest => do
    if let some name := (bare? w).filter isName then
      let _ ← meaningOf false name
    rememberPrograms rest
  | _ :: rest => rememberPrograms rest

/-- Does the process end with a program, so that the program can take its place? -/
def Process.canBecome (p : Process) (last : Bool) : Bool :=
  last && p.traps.all (·.2 = "")

mutual

/-- Runs a script command by command; says whether there was any. -/
def runSource : Nat → Source → Run Bool
  | 0, _ => throw .spent
  | fuel + 1, s => do
    let aliases := (← self).aliases
    let documents := (← world).documents
    match { s with aliases, documents }.next with
    | .error fault =>
      setLine fault.line
      fail ("Syntax error: " ++ fault.flaw.text)
    | .ok none => return false
    | .ok (some (c, s)) =>
      setWorld fun w => { w with documents := s.documents }
      setSelf fun p => { p with readLine := s.line }
      if let some c := c then eval fuel false c
      return (← runSource fuel s) || c.isSome

def runText : Nat → String → Run Bool
  | 0, _ => throw .spent
  | fuel + 1, text => do
    let before := (← self).readLine
    let ran ← runSource fuel (Source.ofString 1 [] [] text)
    setSelf fun p => { p with readLine := before }
    return ran

/-- Runs a script as a part of this one; one without commands succeeds. -/
def runPart : Nat → String → Run Unit
  | 0, _ => throw .spent
  | fuel + 1, text => do
    unless ← runText fuel text do setStatus 0

/-- The output of a command that runs apart. -/
def outputOf : Nat → Command → Run (List Char)
  | 0, _ => throw .spent
  | _, .nothing => return []
  | fuel + 1, c => do
    let before := (← self).status
    let (r, cs) ← collect (apart (toEnd fuel (untested (eval fuel true c))))
    resume r
    setSelf fun p => { p with status := before, substituted := some p.status }
    return cs.filter (· ≠ '\x00')

/-- Runs something with which a process ends, and what is to be done then. -/
def toEnd : Nat → Run Unit → Run Unit
  | 0, _ => throw .spent
  | fuel + 1, m => do
    match ← observe m with
    | .error (.killed signal) => throw (.killed signal)
    | .error .spent => throw .spent
    | _ => finish fuel

/-- Runs what is to be done at the end; the status stays unless it is changed on purpose. -/
def finish : Nat → Run Unit
  | 0 => throw .spent
  | fuel + 1 => do
    let p ← self
    if let some action := Keyed.get? p.traps 0 then
      setSelf fun q => { q with traps := Keyed.erase q.traps 0, held := some p.status, loops := 0 }
      match ← observe (untested do let _ ← runText fuel action) with
      | .error .exit | .error .failed => return ()
      | .error (.killed signal) => throw (.killed signal)
      | .error .spent => throw .spent
      | _ => setStatus p.status

/-- Runs the actions for signals; the status stays unless the action returns one. -/
def runActions : Nat → List Nat → Run Unit
  | 0, _ => throw .spent
  | _, [] => return ()
  | fuel + 1, signal :: rest => do
    let p ← self
    let status := p.held.getD p.status
    setSelf fun q => { q with held := some status }
    let action := (Keyed.get? p.traps signal).getD ""
    let r ← observe (untested do let _ ← runText fuel action)
    setSelf fun q => { q with held := p.held }
    match r with
    | .ok () | .error (.leaveLoop _) | .error (.nextRound _) | .error (.returned false) =>
      setStatus status
    | _ => pure ()
    resume r
    runActions fuel rest

/-- Runs a command that may leave signals to be noticed and a status that ends the process. -/
def settled : Nat → Run Unit → Run Unit
  | 0, _ => throw .spent
  | fuel + 1, m => do
    m
    runActions fuel (← takeSignals)
    checkStatus

/-- `last` says whether the process ends with the command. -/
def eval : Nat → Bool → Command → Run Unit
  | 0, _, _ => throw .spent
  | fuel + 1, last, c => do
    if (← self).options.contains 'n' then return ()
    match c with
    | .nothing => setStatus 0
    | .simple line assignments words rs =>
      setLine line
      settled fuel (evalSimple fuel last assignments words rs)
    | .pipe first rest =>
      rememberPrograms [first]
      settled fuel do
        piped (toEnd fuel (eval fuel true first)) (rememberPrograms (rest.stages.take 1))
          (toEnd fuel (eval fuel true rest))
        rememberPrograms rest.stages
    | .negate c =>
      asTest (eval fuel false c)
      setStatus (if (← self).status = 0 then 1 else 0)
    | .both first rest =>
      asTest (eval fuel false first)
      if (← self).status = 0 then eval fuel last rest
    | .either first rest =>
      asTest (eval fuel false first)
      if (← self).status ≠ 0 then eval fuel last rest
    | .sequence first rest =>
      eval fuel false first
      eval fuel last rest
    | .background line c =>
      setLine line
      settled fuel (inBackground c.redirected (toEnd fuel (eval fuel true c)))
    | .group line c rs =>
      setLine line
      let targets ← rs.mapM (targetOf (outputOf fuel) fuel)
      redirected false targets do
        if ← redirectAll (outputOf fuel) fuel targets then eval fuel false c else setStatus 2
    | .subshell line c rs =>
      setLine line
      settled fuel do
        let targets ← rs.mapM (targetOf (outputOf fuel) fuel)
        let m : Run Unit := do
          targets.forM (redirect (outputOf fuel) fuel false)
          eval fuel true c
        if (← self).canBecome last then
          setSelf Process.copy
          m
        else apart (toEnd fuel m)
    | .branch test yes no =>
      asTest (eval fuel false test)
      if (← self).status = 0 then eval fuel last yes else eval fuel last no
    | .loop until_ test body => inLoop (evalLoop fuel until_ test body 0)
    | .each line name words body =>
      setLine line
      let values := (← words.mapM (fields (outputOf fuel) fuel)).flatten
      if values = [] then setStatus 0 else inLoop (evalEach fuel name body values)
    | .choose line subject arms =>
      setLine line
      let subject ← text (outputOf fuel) fuel .text subject
      evalArms fuel last subject.toList arms
    | .define _ name body =>
      setSelf fun p => { p with functions := Keyed.insert p.functions name body, status := 0 }

def evalArms : Nat → Bool → List Char → List (List Word × Command) → Run Unit
  | 0, _, _, _ => throw .spent
  | _, _, _, [] => setStatus 0
  | fuel + 1, last, subject, (patterns, body) :: rest => do
    if ← fits fuel subject patterns then eval fuel last body else evalArms fuel last subject rest

def fits : Nat → List Char → List Word → Run Bool
  | 0, _, _ => throw .spent
  | _, _, [] => return false
  | fuel + 1, subject, w :: rest => do
    let found ← bits (outputOf fuel) fuel .text w
    if matchesAll (patternItems (patternChars found)) subject then return true
    else fits fuel subject rest

/-- `status` is that of the last round. -/
def evalLoop : Nat → Bool → Command → Command → Nat → Run Unit
  | 0, _, _, _, _ => throw .spent
  | fuel + 1, until_, test, body, status => do
    let tested ← observe (asTest (eval fuel false test))
    match tested with
    | .ok () => pure ()
    | .error (.returned true) => pure ()
    | .error _ => setStatus status
    if tested matches .ok () then
      if ((← self).status = 0) = until_ then setStatus status
      else if ← afterRound (← observe (eval fuel false body)) then
        evalLoop fuel until_ test body (← self).status
    else if ← afterRound tested then evalLoop fuel until_ test body status

def evalEach : Nat → String → Command → List String → Run Unit
  | 0, _, _, _ => throw .spent
  | _, _, _, [] => return ()
  | fuel + 1, name, body, value :: rest => do
    setVariable name value
    if ← afterRound (← observe (eval fuel false body)) then evalEach fuel name body rest

/-- Redirections come before assignments, and `exec` keeps them. -/
def evalSimple : Nat → Bool → List (String × Word) → List Word → List Redirect → Run Unit
  | 0, _, _, _, _ => throw .spent
  | fuel + 1, last, assignments, words, rs => do
    setSelf fun p => { p with substituted := none }
    let call ← Call.ofWords (outputOf fuel) fuel words
    let targets ← rs.mapM (targetOf (outputOf fuel) fuel)
    let errors := Keyed.get? (← self).descriptors 2
    let m : Run Unit := do
      if ← redirectAll (outputOf fuel) fuel targets then
        let shown ← assign fuel call assignments
        showSimple fuel errors shown call
        match call with
        | none => setStatus ((← self).substituted.getD 0)
        | some call => run fuel last call
      else
        setStatus 2
        if call.any (·.special) then throw .failed
    redirected (call.any (·.isBuiltin "exec")) targets
      (if call.any (·.passing) then shadowing m else m)

/-- Makes the assignments before a command, and says what they are. -/
def assign : Nat → Option Call → List (String × Word) → Run (List String)
  | 0, _, _ => throw .spent
  | _, _, [] => return []
  | fuel + 1, call, (name, w) :: rest => do
    let value ← text (outputOf fuel) fuel .assigned w
    if call.any (·.passing) then passVariable name value
    else
      setVariable name value
      if call.any fun c => c.isBuiltin "exec" && c.args ≠ [] then
        setSelf fun p => { p with vars := Keyed.modify p.vars name ({ · with exported := true }) }
    return (name ++ "=" ++ value) :: (← assign fuel call rest)

def showSimple : Nat → Option Channel → List String → Option Call → Run Unit
  | 0, _, _, _ => throw .spent
  | fuel + 1, errors, assignments, call => do
    if (← self).options.contains 'x' then
      let mark ← valueOf "PS4"
      let mark ← match (Source.ofString 1 [] (← world).documents mark).word with
        | .ok (w, _) => text (outputOf fuel) fuel ⟨false, false, false⟩ w
        | .error _ => pure mark
      let words := call.elim [] fun c => c.before ++ c.name :: c.args
      showCommand errors mark (assignments ++ words)

def run : Nat → Bool → Call → Run Unit
  | 0, _, _ => throw .spent
  | fuel + 1, last, c => do
    match c.callee with
    | .function body => call fuel body c.args
    | .program => runProgram fuel last c.standard c.name c.args
    | .builtin =>
      let before ← self
      setSelf fun p => { p with within := some c.name }
      let r ← observe (runBuiltin fuel c.name c.args)
      setSelf fun p => { p with within := before.within }
      match r with
      | .error .failed =>
        if c.special then throw .failed
        setSelf (Process.unwind before.shadows.length)
      | r => resume r

/-- Calls a function. -/
def call : Nat → Command → List String → Run Unit
  | 0, _, _ => throw .spent
  | fuel + 1, body, args => do
    let before ← self
    if deepestCall ≤ before.calls then
      fail ("Maximum function recursion depth (" ++ toString deepestCall ++ ") reached")
    setSelf fun p => { p with args, calls := p.calls + 1, loops := 0, optionPlace := ⟨1, none⟩ }
    let r ← observe (eval fuel false body)
    setSelf fun p => { p with
      args := before.args
      calls := before.calls
      loops := before.loops
      optionPlace := before.optionPlace }
    match r with
    | .error (.returned _) => return ()
    | r => resume r

/-- The commands of the shell that run others or end something, and all the rest. -/
def runBuiltin : Nat → String → List String → Run Unit
  | 0, _, _ => throw .spent
  | fuel + 1, name, args => do
    match name, args with
    | "eval", args => runPart fuel (String.intercalate " " args)
    | ".", args =>
      let o ← options "" args
      match o.operands with
      | [] => setStatus 0
      | file :: _ => runFile fuel (← scriptPath file)
    | "exec", args =>
      let o ← options "" args
      match o.operands with
      | [] => setStatus 0
      | program :: args => become fuel program args
    | "exit", a :: _ =>
      setStatus (← operandNumber a)
      throw .exit
    | "exit", [] =>
      setSelf fun p => { p with status := p.held.getD p.status }
      throw .exit
    | "return", a :: _ =>
      setStatus (← operandNumber a)
      throw (.returned true)
    | "return", [] => throw (.returned false)
    | name, args => (builtin? name args).getD (setStatus 0)

/-- Runs a file as a part of the script. -/
def runFile : Nat → String → Run Unit
  | 0, _ => throw .spent
  | fuel + 1, path => do
    match ← openFile 0 .read path with
    | .input n =>
      let cs := ((Keyed.get? (← world).inputs n).map (·.chars)).getD []
      setSelf fun p => { p with within := some path }
      let part := untested (runPart fuel (scriptText cs))
      match ← observe part with
      | .error (.returned _) => return ()
      | r => resume r
    | _ => setStatus 0

/-- The process becomes a program, or ends if it cannot. -/
def become : Nat → String → List String → Run Unit
  | 0, _, _ => throw .spent
  | fuel + 1, name, args => do
    match ← findProgram false name with
    | .error fault =>
      complain fault.text
      setStatus fault.status
      throw .exit
    | .ok program => takePlace fuel program name args

/-- Runs a program in the place of the process, which ends with it. -/
def takePlace : Nat → Program → String → List String → Run Unit
  | 0, _, _, _ => throw .spent
  | fuel + 1, program, name, args => do
    setSelf fun p => { p with traps := p.traps.filter (·.2 = "") }
    execute fuel program name args
    setSelf fun p => { p with traps := [] }
    throw .exit

/-- Runs a program in a process of its own. -/
def runProgram : Nat → Bool → Bool → String → List String → Run Unit
  | 0, _, _, _, _ => throw .spent
  | fuel + 1, last, standard, name, args => do
    match ← findProgram standard name with
    | .error fault =>
      complain fault.text
      setStatus fault.status
    | .ok program =>
      if (← self).canBecome last then takePlace fuel program name args
      else apart (execute fuel program name args)

/-- What a program does. -/
def execute : Nat → Program → String → List String → Run Unit
  | 0, _, _, _ => throw .spent
  | fuel + 1, program, name, args => do
    match program with
    | .concatenate => cat name args
    | .sleep => sleep name args
    | .shell =>
      setSelf fun p => { p with name, line := 0, within := none }
      match Invocation.ofArgs name args with
      | .error fault =>
        complain fault.text
        setStatus 2
      | .ok i =>
        match ← observe i.script with
        | .error .failed => return ()
        | .error stop => throw stop
        | .ok script =>
          let pid ← freshNumber
          setSelf (newProcess i pid)
          toEnd fuel do
            let _ ← runText fuel script
            if i.goesOn then
              let _ ← runText fuel (← inputScript)

end

end TraceView.Shell
