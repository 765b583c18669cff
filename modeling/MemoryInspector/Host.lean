/-!
# The system around an inspection

What is asked of the system: environment variables, contents of files, processes and the standard
input. Everything that uses them is stated for any host, so that it can also be run on data.
-/

namespace MemoryInspector

/-- Why a file could not be read. -/
inductive FileError where
  | notFound
  | isDirectory
  | other (reason : String)
deriving DecidableEq, Repr

def FileError.message : FileError → String
  | notFound => "No such file or directory (os error 2)"
  | isDirectory => "Is a directory (os error 21)"
  | other reason => reason

structure Host (m : Type → Type) where
  environment : String → m (Option String)
  contents : String → m (Except FileError ByteArray)
  processExists : Int → m Bool
  readInput : m ByteArray

end MemoryInspector
