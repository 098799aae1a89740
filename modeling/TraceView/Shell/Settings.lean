import TraceView.Decimal.Places
import TraceView.Shell.Expansion
import TraceView.Shell.Quoting

/-!
# Commands that set

What the commands of the shell do that change its variables, arguments, options and aliases.
-/

namespace TraceView.Shell

/-- Writes the result of a command that succeeds. -/
def put (command : String) (cs : List Char) : Run Unit := do
  if cs = [] then setStatus 0
  else if ← write 1 cs then setStatus 0
  else
    complain (command ++ ": I/O error")
    setStatus 1

def unlines (lines : List String) : List Char := lines.flatMap fun l => (l ++ "\n").toList

/-- A variable as an assignment, if it has a value. -/
def variableText (name : String) (v : Variable) : String :=
  v.value.elim name fun s => name ++ "=" ++ valueQuoted s

/-- The name before a sign, and the value after it if there is one. -/
def splitAssignment (a : String) : String × Option String :=
  let cs := a.toList
  let name := cs.takeWhile (· ≠ '=')
  (String.ofList name,
    if name.length = cs.length then none else some (String.ofList (cs.drop (name.length + 1))))

/-- Sets a variable if a value follows its name, and marks it. -/
def declareOne (a : String) (mark : Variable → Variable) : Run Unit := do
  let (name, value) := splitAssignment a
  match value with
  | some s =>
    setVariable name s
    setSelf fun p => { p with vars := Keyed.modify p.vars name mark }
  | none =>
    if (Keyed.get? (← self).vars name).isSome then
      setSelf fun p => { p with vars := Keyed.modify p.vars name mark }
    else changeVariable name mark

/-- `export` and `readonly`, which list the marked variables when they are given none. -/
def declare (command : String) (mark : Variable → Variable) (isMarked : Variable → Bool)
    (args : List String) : Run Unit := do
  let o ← options "p" args
  if o.has 'p' || o.operands.isEmpty then
    let marked := (← self).vars.filter fun e => isMarked e.2
    put command (unlines (marked.map fun e => command ++ " " ++ variableText e.1 e.2))
  else
    for a in o.operands do declareOne a mark
    setStatus 0

def exportCommand (args : List String) : Run Unit :=
  declare "export" (fun v => { v with exported := true }) (·.exported) args

def readonlyCommand (args : List String) : Run Unit :=
  declare "readonly" (fun v => { v with readOnly := true }) (·.readOnly) args

/-- Variables of a function; they keep their values at first. A minus sign stands for the options. -/
def localCommand (args : List String) : Run Unit := do
  if (← self).calls = 0 then fail "not in a function"
  for a in args do
    if a = "-" then shadowOptions
    else
      let (name, value) := splitAssignment a
      shadow name
      match value with
      | some s => setVariable name s
      | none => if (Keyed.get? (← self).vars name).isNone then changeVariable name id
  setStatus 0

def unsetCommand (args : List String) : Run Unit := do
  let o ← options "vf" args
  for name in o.operands do
    if (o.letters.getLast?.map (·.1)) = some 'f' then
      setSelf fun p => { p with functions := Keyed.erase p.functions name }
    else unsetVariable name
  setStatus 0

/-- The bits of a line, what a backslash guards being outside the regions; `left` is what comes after
the line, and `complete` says whether a line break ended it. -/
structure LineBits where
  bits : List Bit
  left : List Char
  complete : Bool

/-- `open_` says whether a region is open. -/
def lineBits (raw open_ : Bool) (cs : List Char) : LineBits :=
  let opening : List Bit := if open_ then [] else [.opens false]
  match cs with
  | [] => ⟨opening ++ [.closes], [], false⟩
  | '\n' :: rest => ⟨opening ++ [.closes], rest, true⟩
  | [c] =>
    if c = '\\' && !raw then ⟨opening ++ [.closes], [], false⟩
    else ⟨opening ++ [.char c false, .closes], [], false⟩
  | c :: d :: rest =>
    if c = '\\' && !raw then
      let after := lineBits raw false rest
      let guarded : List Bit := if d = '\n' then [] else [.char d true]
      { after with bits := opening ++ .closes :: guarded ++ after.bits }
    else
      let after := lineBits raw true (d :: rest)
      { after with bits := opening ++ .char c false :: after.bits }
  termination_by cs.length

def setEach : List String → List String → Run Unit
  | name :: names, values => do
    setVariable name (values.headD "")
    setEach names values.tail
  | [], _ => return ()

def readCommand (args : List String) : Run Unit := do
  let o ← options "p:r" args
  if o.operands.isEmpty then fail "arg count"
  let line := lineBits (o.has 'r') false (← unread)
  setUnread line.left
  let found := fieldsOf (← self).separators (some o.operands.length) line.bits
  setEach o.operands (found.map fieldText)
  setStatus (if line.complete then 0 else 1)

/-- The options in the order in which they are listed. -/
def optionList : List (Option Char × String) :=
  optionNames.reverse.map (fun e => (some e.1, e.2)) ++
    [(none, "privileged"), (none, "nolog"), (none, "debug")]

def optionTable (options : List Char) : List String :=
  "Current option settings" :: optionList.map fun (c, name) =>
    name ++ String.ofList (List.replicate (16 - name.length) ' ') ++
      (if c.any options.contains then "on" else "off")

def optionCommands (options : List Char) : List String :=
  optionList.map fun (c, name) =>
    "set " ++ (if c.any options.contains then "-o " else "+o ") ++ name

def switchOption (on : Bool) (c : Char) (options : List Char) : List Char :=
  if on then c :: options.filter (· ≠ c) else options.filter (· ≠ c)

/-- The letters that switch options. -/
def optionLetter? (c : Char) : Option Char :=
  if (optionNames.map (·.1)).contains c then some c else none

/-- The options that letters and names switch, and the arguments after them. -/
structure OptionSwitches where
  options : List Char
  rest : List String
  /-- Do the arguments replace those there are, even if they are none? -/
  reset : Bool
  listing : Option Bool

/-- Why options cannot be switched. -/
inductive SwitchFault where
  | letter (c : Char)
  | name (s : String)

def SwitchFault.text : SwitchFault → String
  | .letter c => "Illegal option -" ++ String.singleton c
  | .name s => "Illegal option -o " ++ s

/-- Letters that follow a sign; an `o` takes a name from the arguments. -/
def switchLetters (on : Bool) (options : List Char) (rest : List String) :
    List Char → Except SwitchFault (List Char × List String × Option Bool)
  | [] => .ok (options, rest, none)
  | 'o' :: cs =>
    match rest with
    | [] => (switchLetters on options [] cs).map fun (os, rest, _) => (os, rest, some on)
    | name :: rest =>
      match optionList.find? (·.2 = name) with
      | some (c, _) => switchLetters on (c.elim options (switchOption on · options)) rest cs
      | none => .error (.name name)
  | c :: cs =>
    if (optionLetter? c).isSome then switchLetters on (switchOption on c options) rest cs
    else .error (.letter c)

/-- Fuel is the number of arguments. -/
def switchOptions (options : List Char) : Nat → List String → Except SwitchFault OptionSwitches
  | fuel + 1, arg :: rest =>
    match arg.toList with
    | ['-'] => .ok ⟨options.filter fun c => c ≠ 'x' && c ≠ 'v', rest, false, none⟩
    | ['-', '-'] => .ok ⟨options, rest, true, none⟩
    | sign :: cs =>
      if sign = '-' || sign = '+' then do
        let (options, rest, listing) ← switchLetters (sign = '-') options rest cs
        let s ← switchOptions options fuel rest
        return { s with listing := listing.or s.listing }
      else .ok ⟨options, arg :: rest, false, none⟩
    | [] => .ok ⟨options, arg :: rest, false, none⟩
  | _, args => .ok ⟨options, args, false, none⟩

def setCommand (args : List String) : Run Unit := do
  if args = [] then
    let known := (← self).vars.filter fun e => e.2.value.isSome
    put "set" (unlines (known.map fun e => variableText e.1 e.2))
  else
    match switchOptions (← self).options args.length args with
    | .error fault => fail fault.text
    | .ok s =>
      setSelf fun p => { p with options := s.options }
      if s.reset || s.rest ≠ [] then
        setSelf fun p => { p with args := s.rest, optionPlace := ⟨1, none⟩ }
      match s.listing with
      | some true => put "set" (unlines (optionTable (← self).options))
      | some false => put "set" (unlines (optionCommands (← self).options))
      | none => setStatus 0

def shiftCommand (args : List String) : Run Unit := do
  let n ← match args with
    | [] => pure 1
    | a :: _ => operandNumber a
  if (← self).args.length < n then fail "can't shift that many"
  setSelf fun p => { p with args := p.args.drop n, optionPlace := ⟨1, none⟩, status := 0 }

/-- What a step of the search finds. -/
structure OptionStep where
  /-- The option, or a question mark. -/
  letter : Char
  /-- The operand of the option; the inner one is missing where the variable is to be unset. -/
  operand : Option (Option String)
  complaint : Option String
  place : OptionPlace
  done : Bool

/-- The characters of a word that are still to be looked at. -/
def OptionPlace.pending (place : OptionPlace) (args : List String) : List Char :=
  match place.offset with
  | some n => ((args[place.argument - 2]?).getD "").toList.drop n
  | none => []

/-- An option in a word of which `cs` are the characters after it; `next` is the next argument, and
`offset` how many characters come before `cs`. -/
def optionStep (allowed : List Char) (args : List String) (c : Char) (cs : List Char)
    (next offset : Nat) : OptionStep :=
  let silent := allowed.head? = some ':'
  let here : OptionPlace := ⟨next, some offset⟩
  match if c = ':' then [] else allowed.dropWhile (· ≠ c) with
  | [] =>
    if silent then ⟨'?', some (some (String.singleton c)), none, here, false⟩
    else ⟨'?', some none, some ("Illegal option -" ++ String.singleton c), here, false⟩
  | _ :: ':' :: _ =>
    if cs ≠ [] then ⟨c, some (some (String.ofList cs)), none, ⟨next, none⟩, false⟩
    else
      match args[next - 1]? with
      | some a => ⟨c, some (some a), none, ⟨next + 1, none⟩, false⟩
      | none =>
        if silent then ⟨':', some (some (String.singleton c)), none, ⟨next, none⟩, false⟩
        else ⟨'?', some none, some ("No arg for -" ++ String.singleton c ++ " option"),
          ⟨next, none⟩, false⟩
  | _ => ⟨c, some (some ""), none, here, false⟩

/-- The next option among the arguments. -/
def nextOption (allowed : List Char) (args : List String) (place : OptionPlace) : OptionStep :=
  match place.pending args with
  | c :: cs => optionStep allowed args c cs place.argument (place.offset.getD 0 + 1)
  | [] =>
    let done := fun n => OptionStep.mk '?' none none ⟨n, none⟩ true
    match (args[place.argument - 1]?).map String.toList with
    | some ['-', '-'] => done (place.argument + 1)
    | some ('-' :: c :: cs) => optionStep allowed args c cs (place.argument + 1) 2
    | _ => done place.argument

def getoptsCommand (args : List String) : Run Unit := do
  let o ← options "" args
  match o.operands with
  | allowed :: name :: given =>
    let p ← self
    let args := if given = [] then p.args else given
    let place := if args.length + 1 < p.optionPlace.argument then ⟨1, none⟩ else p.optionPlace
    let step := nextOption allowed.toList args place
    match step.operand with
    | some (some s) => setVariable "OPTARG" s
    | some none => unsetVariable "OPTARG"
    | none => pure ()
    if let some text := step.complaint then writeError text
    changeVariable "OPTIND" fun v => { v with value := some (toString step.place.argument) }
    setVariable name (String.singleton step.letter)
    setSelf fun p => { p with optionPlace := step.place, status := if step.done then 1 else 0 }
  | _ => fail "Usage: getopts optstring var [arg...]"

/-- Aliases are listed by this number of their names. -/
def aliasPlace (name : String) : Nat :=
  let cs := name.toList
  cs.foldl (fun n c => n + c.toNat) ((cs.head?.elim 0 Char.toNat) * 16) % 39

/-- The name and the value after a sign; the first character always belongs to the name. -/
def splitAlias (a : String) : String × Option String :=
  match a.toList with
  | [] => ("", none)
  | c :: cs =>
    let (name, value) := splitAssignment (String.ofList cs)
    (String.singleton c ++ name, value)

def aliasText (name value : String) : String := name ++ "=" ++ valueQuoted value

/-- Defines an alias, or lists it; false if there is none to be listed. -/
def aliasOne (a : String) : Run Bool := do
  let (name, value) := splitAlias a
  match value, Keyed.get? (← self).aliases name with
  | some value, _ =>
    setSelf fun p => { p with aliases := Keyed.insert p.aliases name value }
    return true
  | none, some value =>
    put "alias" (unlines [aliasText name value])
    return true
  | none, none =>
    writeError ("alias: " ++ name ++ " not found")
    return false

def aliasCommand (args : List String) : Run Unit := do
  if args = [] then
    let listed := (← self).aliases.mergeSort fun a b => aliasPlace a.1 ≤ aliasPlace b.1
    put "alias" (unlines (listed.map fun e => aliasText e.1 e.2))
  else
    let known ← args.mapM aliasOne
    setStatus (if known.all id then 0 else 1)

def unaliasCommand (args : List String) : Run Unit := do
  let o ← options "a" args
  setStatus 0
  if o.has 'a' then setSelf fun p => { p with aliases := [] }
  else
    for name in o.operands do
      if (Keyed.get? (← self).aliases name).isNone then
        writeError ("unalias: " ++ name ++ " not found")
        setStatus 1
      setSelf fun p => { p with aliases := Keyed.erase p.aliases name }

def octalText (width n : Nat) : String :=
  String.ofList (Decimal.leftZeros width (Nat.toDigits 8 n))

/-- Whose permissions a letter means, as the places of three bits each. -/
def permissionPlaces (c : Char) : List Nat :=
  match c with
  | 'u' => [64]
  | 'g' => [8]
  | 'o' => [1]
  | 'a' => [64, 8, 1]
  | _ => []

def permissionBit (c : Char) : Nat :=
  match c with
  | 'r' => 4
  | 'w' => 2
  | 'x' => 1
  | _ => 0

def permissionText (umask place : Nat) : String :=
  let bits := 7 - umask / place % 8
  String.ofList (['r', 'w', 'x'].filter fun c => bits / permissionBit c % 2 = 1)

def umaskText (umask : Nat) : String :=
  "u=" ++ permissionText umask 64 ++ ",g=" ++ permissionText umask 8 ++ ",o=" ++
    permissionText umask 1

def isSign (c : Char) : Bool := c = '+' || c = '-' || c = '='

/-- The bits that letters stand for; a letter of somebody else stands for what they have. -/
def permissionBits? (permissions : Nat) (cs : List Char) : Option Nat :=
  match cs with
  | ['u'] => some (permissions / 64 % 8)
  | ['g'] => some (permissions / 8 % 8)
  | ['o'] => some (permissions % 8)
  | cs =>
    if cs.all ['r', 'w', 'x', 'X', 's', 't'].contains then
      some (cs.foldl (fun n c => n ||| permissionBit c) 0)
    else none

/-- Gives, takes away or sets permissions at some places. -/
def changePermissions (sign : Char) (bits : Nat) (places : List Nat) (permissions : Nat) : Nat :=
  places.foldl (fun n place =>
    let old := n / place % 8
    let new := if sign = '+' then old ||| bits else if sign = '-' then old - (old &&& bits) else bits
    n - old * place + new * place) permissions

/-- The permissions after signs and letters such as `+x-w`. -/
def permissionChanges (places : List Nat) (permissions : Nat) (cs : List Char) : Option Nat :=
  match cs with
  | [] => some permissions
  | sign :: cs =>
    let letters := cs.takeWhile (!isSign ·)
    match if isSign sign then permissionBits? permissions letters else none with
    | none => none
    | some bits =>
      permissionChanges places (changePermissions sign bits places permissions)
        (cs.drop letters.length)
  termination_by cs.length
  decreasing_by
    simp only [List.length_drop, List.length_cons]
    omega

/-- The permissions after a clause such as `g-w`. -/
def permissionClause (permissions : Nat) (clause : List Char) : Option Nat :=
  let who := clause.takeWhile ['u', 'g', 'o', 'a'].contains
  let places := if who.isEmpty then [64, 8, 1] else who.flatMap permissionPlaces
  permissionChanges places permissions (clause.drop who.length)

/-- The parts between commas. -/
def commaParts : List Char → List (List Char)
  | [] => [[]]
  | c :: cs =>
    match commaParts cs with
    | [] => [[c]]
    | part :: parts => if c = ',' then [] :: part :: parts else (c :: part) :: parts

def umaskCommand (args : List String) : Run Unit := do
  let o ← options "S" args
  match o.operands with
  | [] =>
    let n := (← self).umask
    put "umask" (unlines [if o.has 'S' then umaskText n else octalText 4 n])
  | mode :: _ =>
    let cs := mode.toList
    if cs.head?.any Char.isDigit then
      if cs.all (fun c => (digitIn? 8 c).isSome) then
        setSelf fun p => { p with umask := numberIn 8 cs % 512, status := 0 }
      else fail ("Illegal number: " ++ mode)
    else
      match (commaParts cs).foldlM permissionClause (511 - (← self).umask) with
      | some permissions => setSelf fun p => { p with umask := 511 - permissions, status := 0 }
      | none => fail ("Illegal mode: " ++ mode)

/-- The parts between the colons of a list of directories. -/
def colonParts : List Char → List (List Char)
  | [] => [[]]
  | c :: cs =>
    match colonParts cs with
    | [] => [[c]]
    | part :: parts => if c = ':' then [] :: part :: parts else (c :: part) :: parts

def pwdCommand (args : List String) : Run Unit := do
  let _ ← options "LP" args
  put "pwd" (unlines [Text.octets (← self).cwd])

/-- A path that is not looked for in the list of directories. -/
def isPlainTarget (target : String) : Bool :=
  match target.toList with
  | '/' :: _ | ['.'] | '.' :: '/' :: _ | ['.', '.'] | '.' :: '.' :: '/' :: _ => true
  | _ => false

/-- Goes to a directory and notes the one before it; false if it cannot be entered. -/
def enter (target : String) : Run Bool := do
  match (← world).tree.find (← self).cwd (Text.unoctets target) with
  | .ok (place, .directory) =>
    setVariable "OLDPWD" (Text.octets (← self).cwd)
    setVariable "PWD" (Text.octets place)
    let mark := fun v : Variable => { v with exported := true }
    setSelf fun p => { p with
      cwd := place
      vars := Keyed.modify (Keyed.modify p.vars "OLDPWD" mark) "PWD" mark }
    return true
  | _ => return false

/-- The first directory of the list in which the target is found, and whether to tell of it. -/
def enterListed (target : String) : List (List Char) → Run (Option Bool)
  | [] => return none
  | dir :: rest => do
    let path := if dir.isEmpty then target else Path.join (String.ofList dir) target
    if ← enter path then return some !dir.isEmpty
    else enterListed target rest

def cdCommand (args : List String) : Run Unit := do
  let o ← options "LP" args
  let (target, told) ← match o.operands.head? with
    | none => pure ((← valueOf "HOME"), false)
    | some "-" => pure ((← valueOf "OLDPWD"), true)
    | some dir => pure (dir, false)
  let path := if target = "" then "." else target
  let dirs ← valueOf "CDPATH"
  let list := if isPlainTarget path then [[]] else colonParts dirs.toList
  let entered ← match ← enterListed path list with
    | some told => pure (some told)
    | none => if ← enter path then pure (some false) else pure none
  match entered with
  | some listed =>
    if told || listed then put "cd" (unlines [Text.octets (← self).cwd]) else setStatus 0
  | none => fail ("can't cd to " ++ target)

end TraceView.Shell
