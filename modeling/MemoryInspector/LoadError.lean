/-!
# Why a file cannot be used

Failures to set up an inspection from files and the environment, and the wording of each.
-/

namespace MemoryInspector

inductive LoadError where
  | unreadableTypes (path : String)
  | malformedTypes (path : String)
  | malformedDebugInfo (path : String)
  | noTypes (path : String)
  | unreadableBinary (path : String)
  | malformedBinary (path : String)
  | unreadableDump (path : String)
  | unreadableCore (path : String)
  /-- The core can be opened and is no regular file. -/
  | unmappableCore
  | malformedCore (path : String)
  | emptyCore (path : String)
  | noProcess (pid : String)
  | unreadableProcess (pid : String)
  | nothingToInspect
  | noHome
  | malformedConfig (path : String)
  | unreadableConfig (reason : String)
deriving DecidableEq, Repr

def LoadError.message : LoadError → String
  | unreadableTypes path => s!"Failed to read {path}"
  | malformedTypes path => s!"Failed to parse {path}"
  | malformedDebugInfo path => s!"Invalid debug info in {path}"
  | noTypes path => s!"No type information in {path}"
  | unreadableBinary path => s!"Failed to read binary {path}"
  | malformedBinary path => s!"Failed to parse binary {path}"
  | unreadableDump path => s!"Failed to read raw dump {path}"
  | unreadableCore path => s!"Failed to open core file {path}"
  | unmappableCore => "No such device (os error 19)"
  | malformedCore path => s!"Failed to parse core file {path}"
  | emptyCore path => s!"Core file {path} has no loadable segments"
  | noProcess pid => s!"Failed to find process {pid}"
  | unreadableProcess pid => s!"Failed to open /proc/{pid}/mem"
  | nothingToInspect => "Nothing to inspect: pass one of --pid, --core or --raw"
  | noHome => "HOME env variable not set"
  | malformedConfig path => s!"Failed to parse selva-inspect config at {path}"
  | unreadableConfig reason => s!"Failed to load config: {reason}"

end MemoryInspector
