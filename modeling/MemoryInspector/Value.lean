import MemoryInspector.CType

/-!
# Typed values

A value is a place together with a type. The place is an address of the target, or the bits
themselves where the value exists in the inspector alone.
-/

namespace MemoryInspector

inductive Location where
  | memory (address : UInt64)
  /-- The bits of a literal, of an address taken or of a cast. -/
  | immediate (bits : UInt64)
deriving DecidableEq, Repr

structure Value where
  location : Location
  type : CType
deriving DecidableEq, Repr

namespace Value

/-- The value stored at an address. -/
def atAddress (address : UInt64) (type : CType) : Value := ⟨.memory address, type⟩

def ofBits (bits : UInt64) (type : CType) : Value := ⟨.immediate bits, type⟩

def address? (value : Value) : Option UInt64 :=
  match value.location with
  | .memory address => some address
  | .immediate _ => none

end Value

end MemoryInspector
