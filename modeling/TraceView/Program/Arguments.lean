import TraceView.Path

/-!
# The command line

Options that hold for the whole program may stand before or after the command, each once on either
side; the side of the command wins. Values are separate arguments or follow an equals sign. After
`--` nothing is an option.
-/

namespace TraceView.Program

/-- Options given on one side of the command. -/
structure Globals where
  config : Option Path
  logFile : Option Path
  python : Option Path
  workspace : Option Path
  deriving DecidableEq, Repr

def Globals.none : Globals := ⟨.none, .none, .none, .none⟩

def Globals.orElse (inner outer : Globals) : Globals where
  config := inner.config.or outer.config
  logFile := inner.logFile.or outer.logFile
  python := inner.python.or outer.python
  workspace := inner.workspace.or outer.workspace

inductive Task where
  | host
  | render (source trace : Path)
  deriving DecidableEq, Repr

structure Invocation where
  globals : Globals
  task : Task
  deriving DecidableEq, Repr

/-- Why a command line asks for no task. -/
inductive Refusal where
  | help
  | version
  | usage
  deriving DecidableEq, Repr

/-- What may stand on one side. -/
inductive Side where
  | outer
  | host
  | render
  deriving DecidableEq, Repr

/-- What one side holds. -/
structure Given where
  globals : Globals
  source : Option Path
  trace : Option Path
  deriving DecidableEq, Repr

def Given.none : Given := ⟨.none, .none, .none⟩

inductive OptionName where
  | config
  | logFile
  | python
  | workspace
  | trace
  deriving DecidableEq, Repr

def optionNames : List (String × OptionName) :=
  [("--config", .config), ("--log-file", .logFile), ("--python", .python),
    ("--workspace", .workspace), ("--trace", .trace)]

def option? (side : Side) (name : String) : Option OptionName :=
  ((optionNames.find? (·.1 = name)).map (·.2)).filter fun o => o ≠ .trace || side = .render

/-- A value once given is not given again; an empty value is none. -/
def setOnce (old : Option Path) (value : Path) : Except Refusal (Option Path) :=
  if value = "" ∨ old.isSome then .error .usage else .ok (some value)

def Given.set (g : Given) (name : OptionName) (value : Path) : Except Refusal Given :=
  match name with
  | .config => do return { g with globals.config := ← setOnce g.globals.config value }
  | .logFile => do return { g with globals.logFile := ← setOnce g.globals.logFile value }
  | .python => do return { g with globals.python := ← setOnce g.globals.python value }
  | .workspace => do return { g with globals.workspace := ← setOnce g.globals.workspace value }
  | .trace => do return { g with trace := ← setOnce g.trace value }

/-- Does an argument start an option? -/
def isOptionLike (arg : String) : Bool :=
  arg.toList.head? == some '-' && arg ≠ "-"

/-- An operand, of which only `render` takes one. -/
def Given.operand (g : Given) (side : Side) (value : String) : Except Refusal Given :=
  if side = .render then do return { g with source := ← setOnce g.source value }
  else .error .usage

def Given.operands (g : Given) (side : Side) : List String → Except Refusal Given
  | [] => .ok g
  | value :: rest => do (← g.operand side value).operands side rest

/-- A command, where one may stand. -/
def command? (side : Side) (arg : String) : Option Side :=
  if side ≠ .outer then none
  else if arg = "host" then some .host
  else if arg = "render" then some .render
  else none

/-- The name and the value of an option with an equals sign. -/
def attached? (arg : String) : Option (String × String) :=
  let cs := arg.toList
  let name := cs.takeWhile (· ≠ '=')
  if name.length < cs.length then
    some (String.ofList name, String.ofList (cs.drop (name.length + 1)))
  else none

/-- Short options are read letter by letter, so what follows the first of them does not matter. -/
def refusalOf (side : Side) (arg : String) : Refusal :=
  if arg = "--help" ∨ arg.toList.take 2 = ['-', 'h'] then .help
  else if side = .outer ∧ (arg = "--version" ∨ arg.toList.take 2 = ['-', 'V']) then .version
  else .usage

def isCommandName (arg : String) : Bool := arg = "host" || arg = "render" || arg = "help"

/-- Help on a command, on help itself, or on a command that help knows of. -/
def helpRefusal : List String → Refusal
  | [] => .help
  | [arg] => if isCommandName arg then .help else .usage
  | [arg, inner] => if arg = "help" ∧ isCommandName inner then .help else .usage
  | _ => .usage

/-- Reads one side; what follows a command is left over for the next. -/
def readSide (side : Side) (g : Given) :
    List String → Except Refusal (Given × Option (Side × List String))
  | [] => .ok (g, none)
  | arg :: rest =>
    match command? side arg, option? side arg, attached? arg with
    | some inner, _, _ => .ok (g, some (inner, rest))
    | none, some name, _ =>
      match rest with
      | value :: rest =>
        if isOptionLike value then .error .usage
        else do readSide side (← g.set name value) rest
      | [] => .error .usage
    | none, none, some (name, value) =>
      match option? side name with
      | some name => do readSide side (← g.set name value) rest
      | none => if isOptionLike arg then .error (refusalOf side arg)
        else do readSide side (← g.operand side arg) rest
    | none, none, none =>
      if arg = "--" then do return (← g.operands side rest, none)
      else if isOptionLike arg then .error (refusalOf side arg)
      else if side = .outer ∧ arg = "help" then .error (helpRefusal rest)
      else do readSide side (← g.operand side arg) rest

def taskOf (side : Side) (g : Given) : Except Refusal Task :=
  match side, g.source, g.trace with
  | .render, some source, some trace => .ok (.render source trace)
  | .render, _, _ => .error .usage
  | _, _, _ => .ok .host

def Invocation.read (args : List String) : Except Refusal Invocation := do
  let (outer, command) ← readSide .outer .none args
  match command with
  | none => return ⟨outer.globals, .host⟩
  | some (side, rest) =>
    let (inner, _) ← readSide side .none rest
    return ⟨inner.globals.orElse outer.globals, ← taskOf side inner⟩

end TraceView.Program
