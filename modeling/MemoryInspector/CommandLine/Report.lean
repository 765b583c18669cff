import MemoryInspector.CommandLine.Invocation
import MemoryInspector.Config.Location
import MemoryInspector.DebugInfo.Load
import MemoryInspector.Hierarchy.Node
import MemoryInspector.Memory.CoreFile
import MemoryInspector.Memory.Snapshot
import MemoryInspector.Script
import MemoryInspector.Symbols

/-!
# Reports

What an invocation writes and whether it succeeds. The parts of a session are set up in a fixed
order, and the first failure ends the run: the configuration, the types, the types of symbols, the
memory, the symbols, and then the command. Debug information with endless references and values that
nest without end leave an invocation without an outcome.
-/

namespace MemoryInspector.CommandLine

open Text

inductive Failure where
  | load (cause : LoadError)
  | config (cause : ConfigError)
  | command (cause : CommandError)
  | script (cause : ScriptError)
deriving DecidableEq, Repr

/-- What failed, without the causes of configuration and script errors. -/
def Failure.message : Failure → String
  | load cause => cause.message
  | config cause => cause.headline
  | command cause => cause.message
  | script _ => "Shell session failed"

structure Report where
  output : String
  outcome : Option (Except Failure Unit)

/-- An invocation without an outcome gives no exit code of its own. -/
def Report.exitCode? (report : Report) : Option UInt32 :=
  report.outcome.map fun
    | .ok _ => 0
    | .error _ => 1

variable {m : Type → Type} [Monad m] (host : Host m)

/-- The types of the inspected binary, or the built-in ones where it has none. -/
def baseTypes (options : Options) : OptionT m Registry := do
  match options.binary with
  | none => return Hierarchy.types
  | some path =>
    match ← host.contents path with
    | .error _ => return Hierarchy.types
    | .ok bytes =>
      let types ← OptionT.mk (pure (DebugInfo.registryOfBinary path bytes))
      return types.toOption.getD Hierarchy.types

def coreOf (path : String) (contents : Except FileError ByteArray) : Except LoadError Memory :=
  match contents with
  | .ok bytes => (CoreDump.ofFile path bytes).map (·.memory)
  | .error .isDirectory => .error .unmappableCore
  | .error _ => .error (.unreadableCore path)

def dumpAt (path : String) (base : UInt64) (contents : Except FileError ByteArray) :
    Except LoadError Memory :=
  match contents with
  | .ok bytes => .ok (Snapshot.ofBytes base bytes.data).memory
  | .error _ => .error (.unreadableDump path)

def openMemory (options : Options) : m (Except LoadError Memory) := do
  match options.pid, options.core, options.raw, options.rawBase with
  | some pid, _, _, _ =>
    if ← host.processExists pid then return .error (.unreadableProcess (signedDecimal pid))
    else return .error (.noProcess (signedDecimal pid))
  | none, some path, _, _ => return coreOf path (← host.contents path)
  | none, none, some path, some base => return dumpAt path base (← host.contents path)
  | none, none, _, _ => return .error .nothingToInspect

/-- The symbols of the inspected binary, which is loaded where it says if no bias is given. -/
def loadSymbols (options : Options) : m (Except LoadError SymbolTable) := do
  match options.binary with
  | none => return .ok ∅
  | some path =>
    match ← host.contents path with
    | .error _ => return .error (.unreadableBinary path)
    | .ok bytes => return SymbolTable.ofBinary path bytes (options.loadBias.getD 0)

/-- The session of an invocation, unless the references of the debug information never end. -/
def openSession (options : Options) : OptionT m (Except Failure Session) := ExceptT.run do
  let config ← ExceptT.mk do
    return (← (Config.load host options.configName : m _)).mapError Failure.load
  let base ← ExceptT.lift (baseTypes host options)
  let types ← ExceptT.mk (pure ((config.typeRegistry base).mapError Failure.config))
  let symbolTypes ← ExceptT.mk (pure ((config.symbolTypes types).mapError Failure.config))
  let memory ← ExceptT.mk do return (← (openMemory host options : m _)).mapError Failure.load
  let symbols ← ExceptT.mk do return (← (loadSymbols host options : m _)).mapError Failure.load
  return ⟨⟨memory, types, symbols, symbolTypes⟩, Hierarchy.printers⟩

def Report.ofExecution (execution : Execution) : Report where
  output := execution.output
  outcome := execution.outcome.map fun
    | .ok _ => .ok ()
    | .error e => .error (.command e)

def Report.ofScript (run : ScriptRun) : Report where
  output := run.output
  outcome := run.outcome.map (·.mapError .script)

/-- Execute a command in a session; the shell reads the standard input without prompts. -/
def perform (session : Session) (command : Command) : m Report := do
  match command.line? with
  | some line => return .ofExecution (session.execute line)
  | none => return .ofScript (session.run false (← host.readInput).data.toList)

def Invocation.report (invocation : Invocation) : m Report := do
  match ← (openSession host invocation.options).run with
  | some (.ok session) => perform host session invocation.command
  | some (.error failure) => return ⟨"", some (.error failure)⟩
  | none => return ⟨"", none⟩

/-- The values in the environment for settings that no option gives. -/
def fallbacks : m (List (Setting × String)) :=
  Setting.all.filterMapM fun setting ↦
    match setting.fallback? with
    | none => return none
    | some name => return (← host.environment name).map (setting, ·)

end MemoryInspector.CommandLine
