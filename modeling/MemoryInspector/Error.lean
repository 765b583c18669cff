import MemoryInspector.Text.Numeral

/-!
# Why an inspection fails

The four causes that stop the reading of a value, and the wording of each.
-/

namespace MemoryInspector

open Text

inductive InspectError where
  /-- No type, record or member of this name is known. -/
  | unknownName (name : String)
  /-- The subject has no value here. -/
  | evaluation (subject reason : String)
  /-- Some byte of the range is not mapped. -/
  | unreadable (address : UInt64) (count : Nat)
  /-- A command was given a bad argument; positions count from one, zero stands for all of them. -/
  | invalidArgument (position : Nat) (which reason : String)
deriving DecidableEq, Repr

namespace InspectError

def message : InspectError → String
  | unknownName name => s!"Unknown type or member '{name}'"
  | evaluation subject reason => s!"Cannot evaluate '{subject}': {reason}"
  | unreadable address count =>
    s!"Cannot access memory at address 0x{hex address.toNat} ({decimal count} bytes)"
  | invalidArgument position which reason =>
    s!"Invalid argument {decimal position} ({which}): {reason}"

end InspectError

end MemoryInspector
