import TraceView.Fault
import TraceView.Keyed
import TraceView.Path
import TraceView.Text.Utf8

/-!
# File trees

A tree in memory, without links. A path is walked from the root or from a working directory; every
component but the last must be a directory, and so must the last if a separator follows it.
-/

namespace TraceView.Machine

/-- The programs that every machine has. -/
inductive Program where
  | shell
  | concatenate
  | sleep
  deriving DecidableEq, Repr

/-- Only programs can be executed. -/
inductive Node where
  | file (content : List UInt8)
  | program (p : Program)
  /-- Reads as empty and forgets what is written to it. -/
  | nullDevice
  | directory
  deriving DecidableEq, Repr

/-- Nodes by absolute path, in the spelling of `Path.canonical`. The root is not listed. -/
abbrev Tree := Keyed Path Node

namespace Tree

def rootPath : Path := "/"

def node? (tree : Tree) (p : Path) : Option Node :=
  if p = rootPath then some .directory else Keyed.get? tree p

def child (dir : Path) (name : String) : Path :=
  if dir = rootPath then "/" ++ name else dir ++ "/" ++ name

def parentOf (p : Path) : Path :=
  match p.parent? with
  | some q => q
  | none => rootPath

/-- The longest name and the longest path, in bytes. -/
def longestName : Nat := 255

def longestPath : Nat := 4095

def step (at_ : Path) (name : String) : Path :=
  if name = ".." then parentOf at_ else if name = "." then at_ else child at_ name

/-- Walks from a node that is there; every component leaves a directory. -/
def walk (tree : Tree) (at_ : Path) : List String → Except Fault Path
  | [] => .ok at_
  | name :: rest =>
    match node? tree at_ with
    | some .directory =>
      if longestName < name.utf8ByteSize then .error .nameTooLong
      else if (node? tree (step at_ name)).isSome || rest = [] then walk tree (step at_ name) rest
      else .error .noSuchFile
    | some _ => .error .notADirectory
    | none => .error .noSuchFile

/-- Does the spelling ask for a directory? -/
def wantsDirectory (p : Path) : Bool :=
  let cs := p.toList.reverse
  cs.head? == some '/' || cs.take 2 == ['.', '/'] || cs.take 3 == ['.', '.', '/']

/-- The absolute place that a path names; the last component need not be there. -/
def place (tree : Tree) (cwd p : Path) : Except Fault Path :=
  if p = "" then .error .noSuchFile
  else if longestPath < p.utf8ByteSize then .error .nameTooLong
  else walk tree (if p.isAbsolute then rootPath else cwd) p.names

def find (tree : Tree) (cwd p : Path) : Except Fault (Path × Node) := do
  let q ← place tree cwd p
  match node? tree q with
  | none => throw .noSuchFile
  | some .directory => return (q, .directory)
  | some node => if wantsDirectory p then throw .notADirectory else return (q, node)

def isFile (tree : Tree) (cwd p : Path) : Bool :=
  match find tree cwd p with
  | .ok (_, .file _) | .ok (_, .program _) => true
  | _ => false

def isDirectory (tree : Tree) (cwd p : Path) : Bool :=
  match find tree cwd p with
  | .ok (_, .directory) => true
  | _ => false

/-- The image of a program is no text. -/
def programImage : List UInt8 := [0x7F, 0x45, 0x4C, 0x46, 0xFF]

def readBytes (tree : Tree) (cwd p : Path) : Except Fault (List UInt8) := do
  match ← find tree cwd p with
  | (_, .directory) => throw .isADirectory
  | (_, .file content) => return content
  | (_, .program _) => return programImage
  | (_, .nullDevice) => return []

def readText (tree : Tree) (cwd p : Path) : Except Fault String := do
  let bytes ← readBytes tree cwd p
  match Text.Utf8.strict? bytes with
  | some text => return text
  | none => throw .notUtf8

/-- Puts the directories of a path into the tree. -/
def addDirectories (tree : Tree) (dir : Path) : List String → Tree
  | [] => tree
  | name :: rest =>
    let dir := child dir name
    addDirectories (if (node? tree dir).isSome then tree else Keyed.insert tree dir .directory)
      dir rest

/-- Puts a node into the tree with the directories above it. -/
def add (tree : Tree) (p : Path) (node : Node) : Tree :=
  Keyed.insert (addDirectories tree rootPath p.names.dropLast) p.canonical node

def addFile (tree : Tree) (p : Path) (content : List UInt8) : Tree :=
  add tree p (.file content)

def addDirectory (tree : Tree) (p : Path) : Tree :=
  addDirectories tree rootPath p.names

/-- Without the directory and all that is in it. -/
def removeDirectory (tree : Tree) (p : Path) : Tree :=
  tree.filter fun e => e.1 ≠ p && !(p ++ "/").toList.isPrefixOf e.1.toList

/-- Why a directory cannot be made in `dir`, if it cannot. -/
def makeFault (tree : Tree) (cwd dir : Path) : Option Fault :=
  match find tree cwd dir with
  | .error fault => some fault
  | .ok (_, .directory) => none
  | .ok _ => some .notADirectory

/-- Is the last component followed by a separator? Then a file of that name cannot be made. -/
def endsInSeparator (p : Path) : Bool :=
  let cs := p.toList.reverse
  let name := cs.dropWhile (· = '/')
  cs.head? == some '/' && name.take 2 != ['.', '/'] && name.take 3 != ['.', '.', '/']

/-- Where a file can be written: where one is, or where its directory is. -/
def writePlace (tree : Tree) (cwd p : Path) : Except Fault Path := do
  let q ← place tree cwd p
  if endsInSeparator p then throw .isADirectory
  match node? tree q with
  | some .directory => throw .isADirectory
  | some _ => if wantsDirectory p then throw .notADirectory else return q
  | none =>
    if !wantsDirectory p && isDirectory tree rootPath (parentOf q) then return q
    else throw .noSuchFile

/-- Writes to a file that may not be there yet; only files keep what is written. -/
def append (tree : Tree) (q : Path) (bytes : List UInt8) : Tree :=
  match node? tree q with
  | none => Keyed.insert tree q (.file bytes)
  | some (.file content) => Keyed.insert tree q (.file (content ++ bytes))
  | some _ => tree

/-- Empties a file. -/
def truncate (tree : Tree) (q : Path) : Tree :=
  match node? tree q with
  | none | some (.file _) => Keyed.insert tree q (.file [])
  | some _ => tree

def program? (tree : Tree) (cwd p : Path) : Option Program :=
  match find tree cwd p with
  | .ok (_, .program q) => some q
  | _ => none

def onSearchPath? (tree : Tree) (cwd : Path) (searchPath : List Path) (name : String) :
    Option Path :=
  (searchPath.map (Path.join · name)).find? fun p => (program? tree cwd p).isSome

/-- A path of several components must be a file, a single name must be found. -/
def isUsable (tree : Tree) (cwd : Path) (searchPath : List Path) (p : Path) : Bool :=
  if p.depth > 1 || p.isAbsolute then isFile tree cwd p
  else p ≠ "" && (onSearchPath? tree cwd searchPath p).isSome

/-- Where programs are looked for unless the environment says otherwise. -/
def usualSearchPath : List Path := ["/usr/bin", "/bin"]

/-- Directories that are always there. -/
def usualDirectories : List Path :=
  ["/boot", "/etc", "/home", "/lib", "/media", "/mnt", "/opt", "/proc", "/root", "/run", "/sbin",
    "/srv", "/sys", "/tmp", "/usr/lib", "/usr/local/bin", "/usr/sbin", "/usr/share", "/var/tmp"]

def base : Tree :=
  let tree := usualDirectories.foldl addDirectory (add [] "/dev/null" .nullDevice)
  [("sh", Program.shell), ("cat", .concatenate), ("sleep", .sleep)].foldl (fun tree e =>
    (tree.add ("/bin/" ++ e.1) (.program e.2)).add ("/usr/bin/" ++ e.1) (.program e.2)) tree

end Tree

end TraceView.Machine
