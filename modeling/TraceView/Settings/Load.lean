import TraceView.Machine.Tree
import TraceView.Settings.File

/-!
# Where settings come from

A file that is named must be there. Without one the file in the user's configuration directory
counts, if it is there.
-/

namespace TraceView.Settings

open TraceView.Machine (Tree)

/-- The directory of the user's configuration; a relative one does not count. -/
def configDir? (env : String → Option String) : Option Path :=
  ((env "XDG_CONFIG_HOME").filter Path.isAbsolute).or
    (((env "HOME").filter (· ≠ "")).map (Path.join · ".config"))

def defaultPath (configDir : Path) : Path :=
  Path.join (Path.join configDir "live-trace") "settings.toml"

def loadFile (tree : Tree) (cwd path : Path) : Except SettingsFault Settings :=
  match tree.readText cwd path with
  | .error cause => .error (.read path cause)
  | .ok text => ofText path text

def load (tree : Tree) (cwd : Path) (configDir explicit : Option Path) :
    Except SettingsFault Settings :=
  match explicit, configDir.map defaultPath with
  | some path, _ => loadFile tree cwd path
  | none, some path =>
    if tree.isFile cwd path then loadFile tree cwd path else .ok .default
  | none, none => .ok .default

end TraceView.Settings
