import MemoryInspector.CommandLine.Report

/-!
# The program

The command line on a real system. An interactive shell answers line by line; all else is a report
that is written when it is complete.
-/

namespace MemoryInspector.CommandLine

def usage : String :=
  "Inspect Selva hierarchy nodes and vectors of a halted process or a core dump\n\n" ++
  "Usage: selva-inspect [OPTIONS] <COMMAND>\n\n" ++
  "Commands:\n" ++
  "  print <EXPRESSION>...                     Display the value of an expression\n" ++
  "  svector-dump <EXPRESSION> <ELEMENT_TYPE>  Dump every element of an SVector\n" ++
  "  shell                                     Read commands from the standard input\n" ++
  "  help                                      Show this message\n\n" ++
  "Options:\n" ++
  String.join (Setting.all.map fun setting ↦ s!"  --{setting.name} <VALUE>\n")

def version : String := "selva-inspect 0.3.0\n"

/-- The failure that a system call reports with an error number, which may be negated. -/
def numberedError (number : UInt32) (details : String) : FileError :=
  let number := min number (0 - number)
  if number = 2 then .notFound
  else if number = 21 then .isDirectory
  else
    let text := match number.toNat with
      | 13 => "Permission denied"
      | 20 => "Not a directory"
      | 36 => "File name too long"
      | 40 => "Too many levels of symbolic links"
      | _ => details
    .other s!"{text} (os error {number})"

def fileError : IO.Error → FileError
  | .noFileOrDirectory .. => .notFound
  | .inappropriateType _ number details | .permissionDenied _ number details
  | .invalidArgument _ number details | .resourceExhausted _ number details =>
    numberedError number details
  | .otherError number details => numberedError number details
  | e => .other (toString e)

/-- All that a stream still holds. -/
partial def readRest (stream : IO.FS.Stream) (found : ByteArray) : IO ByteArray := do
  let chunk ← stream.read 65536
  if chunk.isEmpty then return found else readRest stream (found ++ chunk)

def contentsOf (path : String) : IO (Except FileError ByteArray) := do
  try
    return .ok (← IO.FS.readBinFile path)
  catch e => return .error (fileError e)

/-- The system that the program runs on. -/
def systemHost : Host IO where
  environment name := IO.getEnv name
  contents := contentsOf
  processExists pid := return (← contentsOf s!"/proc/{pid}/stat").isOk
  readInput := do readRest (← IO.getStdin) ByteArray.empty

/-- Prompt for lines and answer them until the input ends, a command quits or one never ends. -/
partial def converse (session : Session) (input output : IO.FS.Stream) : IO Report := do
  output.putStr prompt
  output.flush
  let line ← input.getLine
  if line.isEmpty then return ⟨"", some (.ok ())⟩
  let (answer, next) := session.respond line
  output.putStr answer
  match next with
  | some .proceed => converse session input output
  | some .quit => return ⟨"", some (.ok ())⟩
  | none => return ⟨"", none⟩

def runInvocation (invocation : Invocation) : IO Report := do
  let input ← IO.getStdin
  if invocation.command = .shell ∧ (← input.isTty) then
    match ← (openSession systemHost invocation.options).run with
    | some (.ok session) => converse session input (← IO.getStdout)
    | some (.error failure) => return ⟨"", some (.error failure)⟩
    | none => return ⟨"", none⟩
  else invocation.report systemHost

/-- The status of a program that was killed, as a shell gives it. -/
def killedStatus : UInt32 := 134

end MemoryInspector.CommandLine

open MemoryInspector.CommandLine in
def main (arguments : List String) : IO UInt32 := do
  match Invocation.ofWords (← fallbacks systemHost) arguments with
  | .error .help =>
    IO.print usage
    return 0
  | .error .version =>
    IO.print version
    return 0
  | .error (.misuse e) =>
    IO.eprintln s!"error: {e.message}"
    return 2
  | .ok invocation =>
    let report ← runInvocation invocation
    IO.print report.output
    match report.outcome with
    | some (.error failure) => IO.eprintln s!"Error: {failure.message}"
    | _ => pure ()
    return report.exitCode?.getD killedStatus
