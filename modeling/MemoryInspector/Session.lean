import MemoryInspector.Expression.Evaluation
import MemoryInspector.Hierarchy.Vector
import MemoryInspector.Text.ShellWords

/-!
# Sessions

A session executes command lines against one target. A command that fails does not end the session:
a script reports the failure in one line and goes on with the next command. A command that shows a
value which nests without end neither succeeds nor fails: the program goes deeper and deeper into the
value, and dies when it has no room left.
-/

namespace MemoryInspector

open Text Hierarchy

structure Session where
  target : Target
  printers : Printers

inductive CommandError where
  | inspect (cause : InspectError)
  | undefined (command : String)
deriving DecidableEq, Repr

def CommandError.message : CommandError → String
  | inspect cause => cause.message
  | undefined command => s!"Undefined command: \"{command}\". Try \"help\"."

inductive Outcome where
  | proceed
  | quit
deriving DecidableEq, Repr

/-- What a command wrote, and whether it succeeded. There is no outcome if the command never ends. -/
structure Execution where
  output : String
  outcome : Option (Except CommandError Outcome)

def helpText : String :=
  "print <expression>                     Display the value of an expression\n" ++
  "svector-dump <expression> <type>       Dump the elements of an SVector, each a <type> *\n" ++
  "help                                   Show this message\n" ++
  "quit                                   Leave the shell"

namespace Session

/-- The text of the value of an expression. -/
def print (session : Session) (expression : String) : Rendering String :=
  if expression.isEmpty then throw (.invalidArgument 1 "expression" "missing expression")
  else do
    let value ← session.target.evaluate expression
    display session.printers session.target value

/-- The outcome of a command that is done when a rendering is. -/
def outcomeOf {α : Type} (rendering : Rendering α) : Option (Except CommandError Outcome) :=
  rendering.run.map fun
    | .ok _ => .ok .proceed
    | .error e => .error (.inspect e)

/-- The value of an expression on a line of its own. -/
def printLine (session : Session) (expression : String) : Execution :=
  let rendering := session.print expression
  match rendering.run with
  | some (.ok text) => ⟨text ++ "\n", outcomeOf rendering⟩
  | _ => ⟨"", outcomeOf rendering⟩

/-- The expression and the type name of a dump command. -/
def dumpArguments (arguments : String) : Except InspectError (String × String) :=
  match ShellWords.split? arguments with
  | none => .error (.invalidArgument 0 "arguments" "missing closing quote")
  | some [] => .error (.invalidArgument 1 "vector expression" "missing vector expression")
  | some [_] => .error (.invalidArgument 2 "element type" "missing element type")
  | some [expression, typeName] => .ok (expression, typeName)
  | some (_ :: _ :: extra :: _) =>
    .error (.invalidArgument 3 "extra" s!"unexpected argument '{extra}'")

/-- The vector that an expression denotes. -/
def vectorOf (target : Target) (expression : String) : Except InspectError VectorView :=
  match target.evaluate expression >>= VectorView.ofValue target with
  | .ok vector => .ok vector
  | .error e => .error (.invalidArgument 1 "vector expression" e.message)

/-- One line per element, each with its index. -/
def dumpLines (texts : List String) : List String :=
  (texts.zipIdx).map fun (text, index) ↦ s!"{decimal index}: {text}\n"

def dumpVector (session : Session) (arguments : String) : Execution :=
  match (do
    let (expression, typeName) ← dumpArguments arguments
    let vector ← vectorOf session.target expression
    pure (vector, typeName)) with
  | .error e => ⟨"", some (.error (.inspect e))⟩
  | .ok (vector, typeName) =>
    let (texts, ending) := dump session.printers session.target vector typeName
    ⟨String.join (dumpLines texts), outcomeOf ending⟩

/-- Execute one command line. -/
def execute (session : Session) (line : String) : Execution :=
  let (command, arguments) := splitFirstBlank (trim line.toList)
  match String.ofList command with
  | "" => ⟨"", some (.ok .proceed)⟩
  | "print" | "p" => session.printLine (String.ofList (trim arguments))
  | "svector-dump" => session.dumpVector (String.ofList arguments)
  | "help" => ⟨helpText ++ "\n", some (.ok .proceed)⟩
  | "quit" | "exit" => ⟨"", some (.ok .quit)⟩
  | other => ⟨"", some (.error (.undefined other))⟩

end Session

end MemoryInspector
