import MemoryInspector.Text.Numeral

/-!
# Options

What the options of the command line say about the program to inspect. Every option takes a value
and is given once at most in one place.
-/

namespace MemoryInspector.CommandLine

open Text

inductive Setting where
  | pid
  | core
  | raw
  | rawBase
  | binary
  | loadBias
  | configName
deriving DecidableEq, Repr

namespace Setting

def all : List Setting := [pid, core, raw, rawBase, binary, loadBias, configName]

def name : Setting → String
  | pid => "pid"
  | core => "core"
  | raw => "raw"
  | rawBase => "raw-base"
  | binary => "binary"
  | loadBias => "load-bias"
  | configName => "config-name"

def ofName? (name : String) : Option Setting := all.find? (·.name == name)

/-- The environment variable that gives the value where no option does. -/
def fallback? : Setting → Option String
  | binary => some "SELVA_INSPECT_BINARY"
  | configName => some "SELVA_INSPECT_CONFIG_NAME"
  | _ => none

end Setting

/-- Why a command line cannot be understood. -/
inductive UsageError where
  | unknownArgument (argument : String)
  | missingCommand
  | missingArgument (name : String)
  | missingValue (setting : Setting)
  | invalidValue (setting : Setting) (value : String)
  | repeated (setting : Setting)
  | conflict (first second : Setting)
  | incomplete (given required : Setting)
deriving DecidableEq, Repr

def UsageError.message : UsageError → String
  | unknownArgument argument => s!"unexpected argument '{argument}'"
  | missingCommand => "a command is missing"
  | missingArgument name => s!"the argument <{name}> is missing"
  | missingValue setting => s!"the option --{setting.name} needs a value"
  | invalidValue setting value => s!"'{value}' is no value for --{setting.name}"
  | repeated setting => s!"the option --{setting.name} is given twice"
  | conflict first second => s!"--{first.name} cannot be used with --{second.name}"
  | incomplete given required => s!"--{given.name} needs --{required.name}"

structure Options where
  pid : Option Int := none
  core : Option String := none
  raw : Option String := none
  rawBase : Option UInt64 := none
  binary : Option String := none
  loadBias : Option UInt64 := none
  configName : Option String := none
deriving DecidableEq, Repr

/-- A word in decimal notation, or in hexadecimal notation after `0x`. -/
def address? (text : String) : Option UInt64 :=
  match text.toList with
  | '0' :: 'x' :: digits => word? 16 digits
  | digits => word? 10 digits

/-- A number of 32 bits with an optional sign. -/
def pid? (text : String) : Option Int :=
  let signed : Option Int := match text.toList with
    | '-' :: digits => (digits? 10 digits).map fun n ↦ -n
    | '+' :: digits => (digits? 10 digits).map fun n ↦ n
    | digits => (digits? 10 digits).map fun n ↦ n
  signed.filter fun i ↦ Int32.minValue.toInt ≤ i ∧ i ≤ Int32.maxValue.toInt

/-- A path is not empty. -/
def path? (text : String) : Option String := if text.isEmpty then none else some text

namespace Options

def has (options : Options) : Setting → Bool
  | .pid => options.pid.isSome
  | .core => options.core.isSome
  | .raw => options.raw.isSome
  | .rawBase => options.rawBase.isSome
  | .binary => options.binary.isSome
  | .loadBias => options.loadBias.isSome
  | .configName => options.configName.isSome

/-- Give a setting the value that a text stands for. -/
def set? (options : Options) (setting : Setting) (text : String) : Option Options :=
  match setting with
  | .pid => (pid? text).map fun pid ↦ { options with pid }
  | .core => (path? text).map fun core ↦ { options with core }
  | .raw => (path? text).map fun raw ↦ { options with raw }
  | .rawBase => (address? text).map fun rawBase ↦ { options with rawBase }
  | .binary => (path? text).map fun binary ↦ { options with binary }
  | .loadBias => (address? text).map fun loadBias ↦ { options with loadBias }
  | .configName => some { options with configName := text }

def assign (options : Options) (setting : Setting) (text : String) : Except UsageError Options :=
  if options.has setting then .error (.repeated setting)
  else match options.set? setting text with
    | some options => .ok options
    | none => .error (.invalidValue setting text)

/-- At most one image of the memory is named, and a raw dump comes with its base. A base without a
raw dump is passed over where another image is named. -/
def check (options : Options) : Except UsageError Unit :=
  if options.has .pid ∧ options.has .core then .error (.conflict .pid .core)
  else if options.has .pid ∧ options.has .raw then .error (.conflict .pid .raw)
  else if options.has .core ∧ options.has .raw then .error (.conflict .core .raw)
  else if options.has .raw ∧ ¬options.has .rawBase then .error (.incomplete .raw .rawBase)
  else if options.has .rawBase ∧ ¬options.has .raw ∧ ¬options.has .pid ∧ ¬options.has .core then
    .error (.incomplete .rawBase .raw)
  else .ok ()

/-- The settings of both, where those of the first count more. -/
def orElse (first second : Options) : Options where
  pid := first.pid <|> second.pid
  core := first.core <|> second.core
  raw := first.raw <|> second.raw
  rawBase := first.rawBase <|> second.rawBase
  binary := first.binary <|> second.binary
  loadBias := first.loadBias <|> second.loadBias
  configName := first.configName <|> second.configName

/-- Take the settings that are missing from texts, which have to be proper values. -/
def complete (options : Options) (texts : List (Setting × String)) : Except UsageError Options :=
  texts.foldlM (fun options (setting, text) ↦
    if options.has setting then .ok options else options.assign setting text) options

end Options

end MemoryInspector.CommandLine
