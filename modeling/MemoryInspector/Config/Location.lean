import MemoryInspector.Config.Reading
import MemoryInspector.Host
import MemoryInspector.LoadError

/-!
# Where configurations are kept

Configurations are YAML files in one directory of the user. Where there is no file, the empty
configuration is used.
-/

namespace MemoryInspector

/-- A path relative to another one; an absolute path stands for itself. -/
def joinPath (base path : String) : String :=
  if path.startsWith "/" || base.isEmpty then path
  else if base.endsWith "/" then base ++ path
  else base ++ "/" ++ path

namespace Config

/-- The path of a configuration in the directory for configurations. -/
def pathIn (directory : String) (name? : Option String) : String :=
  joinPath (joinPath directory "selva-inspect") ((name?.getD "config") ++ ".yaml")

variable {m : Type → Type} [Monad m] (host : Host m)

/-- The directory for configurations: a set variable counts even if it is empty. -/
def directory? : m (Option String) := do
  match ← host.environment "XDG_CONFIG_HOME" with
  | some directory => return some directory
  | none => return (← host.environment "HOME").map (joinPath · ".config")

/-- The configuration in a file with the given contents. -/
def ofFile (path : String) (contents : Except FileError ByteArray) : Except LoadError Config :=
  match contents with
  | .ok bytes =>
    match (String.fromUTF8? bytes).bind ofText? with
    | some config => .ok config
    | none => .error (.malformedConfig path)
  | .error .notFound => .ok {}
  | .error e => .error (.unreadableConfig e.message)

/-- The configuration of a name, or else the default one. -/
def load (name? : Option String) : m (Except LoadError Config) := do
  match ← directory? host with
  | none => return .error .noHome
  | some directory =>
    let path := pathIn directory name?
    return ofFile path (← host.contents path)

end Config

end MemoryInspector
