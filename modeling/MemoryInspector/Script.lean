import MemoryInspector.Session
import MemoryInspector.Text.Utf8

/-!
# Scripts

Command lines read one after another until the input ends or a command quits. Input is a sequence
of bytes; a line that is not UTF-8 ends the run with an error. Behind a command that never ends nothing
is read.
-/

namespace MemoryInspector

open Text

/-- The bytes up to the first newline, and what follows it. A carriage return before the newline
is dropped with it. Nothing is left of an empty input. -/
def nextLine? (input : List UInt8) : Option (List UInt8 × List UInt8) :=
  if input.isEmpty then none
  else
    let line := input.takeWhile (· != 10)
    match input.dropWhile (· != 10) with
    | [] => some (line, [])
    | _ :: rest => some (if line.getLast? = some 13 then line.dropLast else line, rest)

theorem length_lt_of_nextLine? {input line rest : List UInt8}
    (h : nextLine? input = some (line, rest)) : rest.length < input.length := by
  unfold nextLine? at h
  split at h
  · cases h
  · next hne =>
    have hpos : 0 < input.length := by
      cases input <;> simp_all
    split at h
    · cases h
      exact hpos
    · next hd =>
      cases h
      have := (List.dropWhile_suffix (l := input) (fun b : UInt8 ↦ b != 10)).length_le
      rw [hd] at this
      simp only [List.length_cons] at this
      omega

/-- Why a script cannot be read on. -/
inductive ScriptError where
  /-- A line is not UTF-8. -/
  | unreadable
deriving DecidableEq, Repr

def ScriptError.message : ScriptError → String
  | unreadable => "Failed to read command"

/-- What a script wrote, and whether all lines that it came to could be read. There is no outcome if
one of them never ends. -/
structure ScriptRun where
  output : String
  outcome : Option (Except ScriptError Unit)

namespace ScriptRun

def andThen (output : String) (run : ScriptRun) : ScriptRun :=
  { run with output := output ++ run.output }

end ScriptRun

def prompt : String := "(selva) "

namespace Session

/-- The output of one line in a script, and whether the script goes on behind it. A line that never
ends is the last one that is read. -/
def respond (session : Session) (line : String) : String × Option Outcome :=
  let execution := session.execute line
  match execution.outcome with
  | some (.ok outcome) => (execution.output, some outcome)
  | some (.error e) => (execution.output ++ s!"Error: {e.message}\n", some .proceed)
  | none => (execution.output, none)

/-- Run a script; an interactive one is prompted before every line. -/
def run (session : Session) (interactive : Bool) (input : List UInt8) : ScriptRun :=
  let prompted := if interactive then prompt else ""
  match _h : nextLine? input with
  | none => ⟨prompted, some (.ok ())⟩
  | some (line, rest) =>
    match decodeUtf8? line with
    | none => ⟨prompted, some (.error .unreadable)⟩
    | some text =>
      match session.respond text with
      | (output, some .proceed) => (run session interactive rest).andThen (prompted ++ output)
      | (output, some .quit) => ⟨prompted ++ output, some (.ok ())⟩
      | (output, none) => ⟨prompted ++ output, none⟩
termination_by input.length
decreasing_by exact length_lt_of_nextLine? (by assumption)

end Session

end MemoryInspector
