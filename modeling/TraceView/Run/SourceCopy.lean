import TraceView.Run.Event
import TraceView.Run.Options
import TraceView.Text.Quoted
import TraceView.Text.WordChar

/-!
# Copies of the source

A tracer that wants a file gets a copy of the text in a scratch directory of its document. The name
of the copy keeps word characters and dots of the document's name; each run of other characters
becomes one underscore.
-/

namespace TraceView.Run

def isSafeInName (c : Char) : Bool :=
  Text.isWordChar c || c = '.'

/-- `inRun` tells whether the character before was replaced too. -/
def sanitizeFrom (inRun : Bool) : List Char → List Char
  | [] => []
  | c :: cs =>
    if isSafeInName c then c :: sanitizeFrom false cs
    else if inRun then sanitizeFrom true cs
    else '_' :: sanitizeFrom true cs

def sanitize (name : String) : String :=
  String.ofList (sanitizeFrom false name.toList)

/-- A document without a file name is named after its id. -/
def Snapshot.fileName (snapshot : Snapshot) : String :=
  sanitize ((snapshot.path.bind Path.fileName?).getD (snapshot.document ++ ".py"))

def Snapshot.copyPath (snapshot : Snapshot) (dir : Path) : Path :=
  Path.join dir snapshot.fileName

/-- What comes of preparing a launch: the specification or the reason why there is none, the
scratch directory held from now on, the number of directories asked for, and the events. -/
structure Prepared where
  spec : Except LaunchFault LaunchSpec
  scratch : Option Path
  asked : Nat
  events : List Event

def writeCopy (env : Surroundings) (options : Options) (snapshot : Snapshot) (dir : Path)
    (asked : Nat) (events : List Event) : Prepared :=
  let path := snapshot.copyPath dir
  match env.write path with
  | some fault => ⟨.error (.sourceCopy path fault), some dir, asked, events⟩
  | none =>
    ⟨.ok (options.traceSpec snapshot (options.fillIn path)), some dir, asked,
      events ++ [.copyWritten dir snapshot.fileName snapshot.text]⟩

/-- A directory once held is used again. -/
def prepare (env : Surroundings) (options : Options) (snapshot : Snapshot)
    (scratch : Option Path) (asked : Nat) : Prepared :=
  if options.usesCopy then
    match scratch with
    | some dir => writeCopy env options snapshot dir asked []
    | none =>
      match env.scratch asked with
      | .error fault => ⟨.error fault, none, asked + 1, []⟩
      | .ok dir => writeCopy env options snapshot dir (asked + 1) [.scratchMade dir]
  else ⟨.ok (options.traceSpec snapshot options.tracerArgs), scratch, asked, []⟩

/-- The longest file name of the file systems in use, in bytes. -/
def longestName : Nat := 255

/-- A write fails if the name is too long. -/
def writeFault (path : Path) : Option Fault :=
  match path.fileName? with
  | some name => if longestName < name.utf8ByteSize then some .nameTooLong else none
  | none => some .isADirectory

/-- Without a temporary directory there are no scratch directories. -/
def noScratch (tempDir : Path) (cause : Fault) : LaunchFault :=
  .sourceCopy tempDir { cause with
    message := cause.message ++ " at path " ++
      Text.quotedPath (Path.join tempDir "live_trace_XXXXXX") }

end TraceView.Run
