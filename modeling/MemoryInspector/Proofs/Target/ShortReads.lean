import MemoryInspector.Proofs.Registry
import MemoryInspector.Proofs.Target.Agreement

/-!
# Short reads

The bytes of a value are read at once, so a read is as long as a value may be and no longer. Memories
that answer all these reads alike cannot be told apart by what is read of values, whatever they answer
to longer reads, and all other memories can.
-/

namespace MemoryInspector

namespace Memory

variable {memory other : Memory}

/-- Both memories answer all reads alike that are no longer than a value may be. -/
def AgreeOnShort (memory other : Memory) : Prop :=
  AgreeOn (fun _ count ↦ count ≤ Registry.maxValueSize) memory other

/-- The memory with the answers of another one to the reads that are longer than a value may be. -/
def withLongReads (memory other : Memory) : Memory where
  bytes? address count :=
    if count ≤ Registry.maxValueSize then memory.bytes? address count else other.bytes? address count
  length_bytes? := by
    intro address count found h
    split at h
    · exact memory.length_bytes? h
    · exact other.length_bytes? h
  description := other.description

theorem agreeOnShort_withLongReads (memory other : Memory) :
    memory.AgreeOnShort (memory.withLongReads other) := by
  intro address count hshort
  exact (if_pos hshort).symm

theorem bytes?_withLongReads {address : UInt64} {count : Nat} (h : Registry.maxValueSize < count) :
    (memory.withLongReads other).bytes? address count = other.bytes? address count :=
  if_neg (Nat.not_le.2 h)

end Memory

namespace Target

variable {target : Target} {memory : Memory}

section

variable (h : target.memory.AgreeOnShort memory)
include h

theorem agreeOn_valueReads (value : Value) :
    Memory.AgreeOn (target.ValueReads value) target.memory memory :=
  h.mono fun _ _ hread ↦ Registry.valueSize_le hread.2

theorem readBytes_of_agreeOnShort : (target.withMemory memory).readBytes = target.readBytes := by
  funext value
  exact readBytes_withMemory (agreeOn_valueReads h value)

theorem readBits_of_agreeOnShort : (target.withMemory memory).readBits = target.readBits := by
  funext value
  exact readBits_withMemory (agreeOn_valueReads h value)

theorem readInteger_of_agreeOnShort : (target.withMemory memory).readInteger = target.readInteger := by
  funext value
  exact readInteger_withMemory (agreeOn_valueReads h value)

theorem dereference_of_agreeOnShort : (target.withMemory memory).dereference = target.dereference := by
  funext value
  exact dereference_withMemory (agreeOn_valueReads h value)

/-- However many elements there are, each is a read of its own. -/
theorem readArray_of_agreeOnShort : (target.withMemory memory).readArray = target.readArray := by
  funext address type count
  exact readArray_withMemory (h.mono fun _ _ hread ↦ Registry.valueSize_le hread.1)

end

end Target

end MemoryInspector
