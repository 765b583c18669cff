/-!
# Bits read backward

Bits of a byte sequence that are read from its end. The highest set bit of the last byte marks the
end and is not one of them. Beyond the start of the sequence all bits are zero.
-/

namespace MemoryInspector.Compression

/-- The number that bits from a position on make up, the lowest one first. -/
def bitsAt (bytes : ByteArray) (start count : Nat) : Nat :=
  let value := (List.range ((start % 8 + count + 7) / 8)).foldr
    (fun n value ↦ value * 256 + (bytes[start / 8 + n]?.getD 0).toNat) 0
  (value >>> (start % 8)) % (1 <<< count)

structure BackwardBits where
  bytes : ByteArray
  /-- How many bits have not been read; below zero when bits beyond the start have been. -/
  remaining : Int

namespace BackwardBits

/-- All bits below the mark in the last byte, if there is one. -/
def ofBytes? (bytes : ByteArray) : Option BackwardBits :=
  match bytes[bytes.size - 1]? with
  | some last =>
    if last = 0 then none else some ⟨bytes, 8 * (bytes.size - 1) + last.toNat.log2⟩
  | none => none

/-- The number that the next bits make up, the highest one first. -/
def peek (source : BackwardBits) (count : Nat) : Nat :=
  let present := min count source.remaining.toNat
  bitsAt source.bytes (source.remaining.toNat - present) present <<< (count - present)

def drop (source : BackwardBits) (count : Nat) : BackwardBits :=
  { source with remaining := source.remaining - count }

end BackwardBits

/-- Reading of bits from the end. -/
abbrev BackwardReader := StateT BackwardBits Option

/-- Read a number of some bits. -/
def BackwardReader.bits (count : Nat) : BackwardReader Nat := fun source ↦
  some (source.peek count, source.drop count)

end MemoryInspector.Compression
