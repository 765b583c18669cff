import MemoryInspector.CommandLine.Options
import MemoryInspector.Text.ShellWords

/-!
# Invocations

Command lines: options, a command, and the arguments of the command, among which options may stand
as well. The options before the command and those after it are two places, each of which has to be
consistent by itself; what is given after the command counts more.
-/

namespace MemoryInspector.CommandLine

open Text

inductive Command where
  /-- Show the value of an expression that is given in one or more words. -/
  | print (words : List String)
  | dump (expression typeName : String)
  /-- Execute the lines of the standard input. -/
  | shell
deriving DecidableEq, Repr

/-- The line of a session that does the same, if it is one line. -/
def Command.line? : Command → Option String
  | print words => some ("print " ++ String.intercalate " " words)
  | dump expression typeName => some ("svector-dump " ++ ShellWords.join [expression, typeName])
  | shell => none

structure Invocation where
  options : Options
  command : Command
deriving DecidableEq, Repr

/-- What ends the reading of a command line before it is understood. -/
inductive Halt where
  | help
  | version
  | misuse (error : UsageError)
deriving DecidableEq, Repr

def misuse {α : Type} (error : UsageError) : Except Halt α := .error (.misuse error)

/-- How a word looks. -/
inductive Word where
  /-- Two hyphens: all that follows are operands. -/
  | separator
  | long (name : String) (value? : Option String)
  | short (flags : List Char)
  | operand
deriving DecidableEq, Repr

def Word.ofString (text : String) : Word :=
  match text.toList with
  | ['-', '-'] => .separator
  | '-' :: '-' :: rest =>
    .long (String.ofList (rest.takeWhile (· != '=')))
      (match rest.dropWhile (· != '=') with
        | [] => none
        | _ :: value => some (String.ofList value))
  | '-' :: first :: rest => .short (first :: rest)
  | _ => .operand

/-- Where words are read. -/
inductive Place where
  /-- Before the name of the command. -/
  | program
  /-- After the command that prints: the first operand starts the expression, which takes all that
  follows. What looks like an option and is none is an operand. -/
  | expression
  /-- After the other commands. -/
  | arguments
deriving DecidableEq, Repr

namespace Place

/-- Whether a word is the value of an option before it, and not an option itself. -/
def isValue (place : Place) (text : String) : Bool :=
  match Word.ofString text with
  | .separator => false
  | .long name _ => place == expression && name != "help" && (Setting.ofName? name).isNone
  | .short flags => place == expression && flags.any (· != 'h')
  | .operand => true

/-- A long word that is no option with a value. -/
def longFlag (place : Place) (text name : String) (value? : Option String) (rest : List String) :
    Except Halt (List String) :=
  if name = "help" ∨ name = "version" ∧ place = program then
    if value?.isSome then misuse (.unknownArgument text)
    else if name = "help" then .error .help
    else .error .version
  else if place = expression then .ok (text :: rest)
  else misuse (.unknownArgument text)

def shortFlags (place : Place) (text : String) (flags : List Char) (rest : List String) :
    Except Halt (List String) :=
  if place = expression ∧ flags.any (· != 'h') then .ok (text :: rest)
  else match flags with
    | 'h' :: _ => .error .help
    | 'V' :: _ => if place = program then .error .version else misuse (.unknownArgument text)
    | _ => misuse (.unknownArgument text)

/-- The options and the operands at a place. -/
def read (place : Place) (options : Options) :
    List String → Except Halt (Options × List String)
  | [] => .ok (options, [])
  | text :: rest =>
    match Word.ofString text with
    | .separator => if place = program then misuse .missingCommand else .ok (options, rest)
    | .operand =>
      if place = arguments then
        (read place options rest).map fun (options, others) ↦ (options, text :: others)
      else .ok (options, text :: rest)
    | .short flags => (place.shortFlags text flags rest).map (options, ·)
    | .long name value? =>
      match Setting.ofName? name, value?, rest with
      | none, _, _ => (place.longFlag text name value? rest).map (options, ·)
      | some setting, some value, rest =>
        match options.assign setting value with
        | .ok options => read place options rest
        | .error e => misuse e
      | some setting, none, [] => misuse (.missingValue setting)
      | some setting, none, value :: rest =>
        if place.isValue value then
          match options.assign setting value with
          | .ok options => read place options rest
          | .error e => misuse e
        else misuse (.missingValue setting)

/-- The options at a place, which have to be consistent, and its operands. The fallbacks have to be
proper values where they are needed. -/
def readChecked (place : Place) (fallbacks : List (Setting × String)) (words : List String) :
    Except Halt (Options × List String) :=
  match place.read {} words with
  | .error halt => .error halt
  | .ok (options, operands) =>
    match options.check, options.complete fallbacks with
    | .error e, _ | _, .error e => misuse e
    | .ok (), .ok _ => .ok (options, operands)

end Place

def printOf : List String → Except Halt Command
  | [] => misuse (.missingArgument "EXPRESSION")
  | words => .ok (.print words)

def dumpOf : List String → Except Halt Command
  | [] => misuse (.missingArgument "EXPRESSION")
  | [_] => misuse (.missingArgument "ELEMENT_TYPE")
  | [expression, typeName] => .ok (.dump expression typeName)
  | _ :: _ :: extra :: _ => misuse (.unknownArgument extra)

def shellOf : List String → Except Halt Command
  | [] => .ok .shell
  | extra :: _ => misuse (.unknownArgument extra)

/-- Where the words after a command are read, and how the command takes its operands. -/
def commandNamed? : String → Option (Place × (List String → Except Halt Command))
  | "print" => some (.expression, printOf)
  | "svector-dump" => some (.arguments, dumpOf)
  | "shell" => some (.arguments, shellOf)
  | _ => none

/-- Help is given about all or about one command. -/
def helpOn : List String → Halt
  | [] => .help
  | topic :: rest =>
    if topic = "help" ∨ (commandNamed? topic).isSome then
      match rest with
      | [] => .help
      | extra :: _ => .misuse (.unknownArgument extra)
    else .misuse (.unknownArgument topic)

/-- The invocation that the words of a command line describe. Fallbacks are values of settings
that no option gives. -/
def Invocation.ofWords (fallbacks : List (Setting × String)) (words : List String) :
    Except Halt Invocation := do
  match ← Place.program.read {} words with
  | (_, []) => misuse .missingCommand
  | (_, "help" :: topics) => .error (helpOn topics)
  | (before, name :: rest) =>
    match commandNamed? name with
    | none => misuse (.unknownArgument name)
    | some (place, commandOf) =>
      let (after, operands) ← place.readChecked fallbacks rest
      let command ← commandOf operands
      match before.check, before.complete fallbacks, (after.orElse before).complete fallbacks with
      | .error e, _, _ | _, .error e, _ | _, _, .error e => misuse e
      | .ok (), .ok _, .ok options => .ok ⟨options, command⟩

end MemoryInspector.CommandLine
