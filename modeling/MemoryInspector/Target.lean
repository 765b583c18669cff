import Std.Data.TreeMap.Basic
import MemoryInspector.Memory
import MemoryInspector.Registry
import MemoryInspector.Text.LittleEndian
import MemoryInspector.Value

/-!
# The inspected program

A target joins a memory image with the types and the symbols of the program. Its operations read
typed values: their bytes, their bits, their members and their elements. No operation reads more
than `Registry.maxValueSize` bytes at once.
-/

namespace MemoryInspector

open Text

structure Target where
  memory : Memory
  types : Registry
  /-- Addresses of the named symbols. -/
  symbols : Std.TreeMap String UInt64
  /-- Types of symbols; the others are values of type `void`. -/
  symbolTypes : Std.TreeMap String CType

namespace Target

/-- The value that a symbol names. -/
def symbol? (target : Target) (name : String) : Option Value :=
  target.symbols[name]?.map fun address ↦
    .atAddress address (target.symbolTypes[name]?.getD .void)

/-- The member of a record that lies in memory. -/
def field (target : Target) (value : Value) (name : String) : Except InspectError Value :=
  match value.type with
  | .record record => do
    let layout ← target.types.record record
    match layout.field? name, value.address? with
    | some field, some address => .ok (.atAddress (address + field.offset) field.type)
    | _, _ => .error (.unknownName s!"{record}.{name}")
  | type => .error (.unknownName s!"{type.spelling}.{name}")

def readBytes (target : Target) (value : Value) : Except InspectError (List UInt8) := do
  let size ← target.types.valueSize value.type
  match value.location with
  | .memory address => target.memory.read address size
  | .immediate bits => .ok ((toLittleEndian 8 bits.toNat).take size)

/-- The bits of a scalar or pointer, extended by zeros. -/
def readBits (target : Target) (value : Value) : Except InspectError UInt64 :=
  match value.type with
  | .scalar _ | .pointer _ => do
    let bytes ← target.readBytes value
    .ok (UInt64.ofNat (ofLittleEndian bytes))
  | type => .error (.evaluation type.spelling "value is not a scalar or a pointer")

/-- The number that the lowest `size` bytes of a word stand for in two's complement. They are shifted
to the top of the word and back, with copies of the sign. -/
def signedValue (size : Nat) (bits : UInt64) : Int :=
  let shift := 64 - 8 * size
  ((bits.toBitVec <<< shift).sshiftRight shift).toInt

/-- The number that a scalar or pointer stands for. -/
def readInteger (target : Target) (value : Value) : Except InspectError Int := do
  let bits ← target.readBits value
  match value.type with
  | .scalar kind => if kind.isSigned then .ok (signedValue kind.size bits) else .ok bits.toNat
  | _ => .ok bits.toNat

/-- The value that a pointer points to. -/
def dereference (target : Target) (pointer : Value) : Except InspectError Value :=
  match pointer.type with
  | .pointer pointee => do
    let address ← target.readBits pointer
    .ok (.atAddress address pointee)
  | type =>
    .error (.evaluation type.spelling "attempt to take contents of a non-pointer value")

/-- Why the element at an index cannot be read, if it cannot; `count` is the number of elements
asked for in all. -/
def elementError? (target : Target) (address : UInt64) (size count index : Nat) :
    Option InspectError :=
  let start := address.toNat + index * size
  if start < UInt64.size then
    if (target.memory.bytes? (UInt64.ofNat start) size).isSome then none
    else some (.unreadable (UInt64.ofNat start) size)
  else some (.unreadable address (min (count * size) (UInt64.size - 1)))

/-- The error of the first element that cannot be read among the `remaining` ones from `index`. -/
def firstElementError? (target : Target) (address : UInt64) (size count : Nat) :
    (index remaining : Nat) → Option InspectError
  | _, 0 => none
  | index, remaining + 1 =>
    match target.elementError? address size count index with
    | some e => some e
    | none => target.firstElementError? address size count (index + 1) remaining

/-- Consecutive elements from an address on, all of which have to be readable. -/
def readArray (target : Target) (address : UInt64) (type : CType) (count : Nat) :
    Except InspectError (List Value) := do
  let size ← target.types.valueSize type
  match target.firstElementError? address size count 0 count with
  | some e => .error e
  | none => .ok ((List.range count).map fun index ↦
      .atAddress (UInt64.ofNat (address.toNat + index * size)) type)

end Target

end MemoryInspector
