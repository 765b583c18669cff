import MemoryInspector.Proofs.Target.Reading

/-!
# Memories that agree

What is read of a value does not depend on the memory beyond the bytes that the value takes. Two
memories that answer the reads of these bytes alike give the same result, a failure included.
-/

namespace MemoryInspector

namespace Memory

variable {reads reads' : UInt64 → Nat → Prop} {memory other : Memory} {address : UInt64} {count : Nat}

/-- Both memories answer these reads alike. -/
def AgreeOn (reads : UInt64 → Nat → Prop) (memory other : Memory) : Prop :=
  ∀ address count, reads address count → memory.bytes? address count = other.bytes? address count

theorem AgreeOn.mono (h : AgreeOn reads memory other)
    (hsubset : ∀ address count, reads' address count → reads address count) :
    AgreeOn reads' memory other := by
  intro address count hread
  exact h address count (hsubset address count hread)

theorem read_congr (h : memory.bytes? address count = other.bytes? address count) :
    memory.read address count = other.read address count := by
  rw [read, h, read]

end Memory

namespace Target

/-- The same program with another memory. -/
def withMemory (target : Target) (memory : Memory) : Target := { target with memory }

variable {target : Target} {memory : Memory} {value : Value} {address : UInt64} {type : CType}
  {count : Nat}

@[simp]
theorem types_withMemory : (target.withMemory memory).types = target.types := rfl

@[simp]
theorem field_withMemory (value : Value) (name : String) :
    (target.withMemory memory).field value name = target.field value name := rfl

/-- The read that the bytes of a value take. -/
def ValueReads (target : Target) (value : Value) (address : UInt64) (size : Nat) : Prop :=
  value.location = .memory address ∧ target.types.valueSize value.type = .ok size

/-- Whether memories agree on the bytes of a value in memory is a matter of one read. -/
theorem agreeOn_valueReads_atAddress {size : Nat} (hsize : target.types.valueSize type = .ok size)
    (h : target.memory.bytes? address size = memory.bytes? address size) :
    Memory.AgreeOn (target.ValueReads (.atAddress address type)) target.memory memory := by
  rintro _ size' ⟨⟨⟩, hsize'⟩
  cases hsize.symm.trans hsize'
  exact h

theorem readBytes_withMemory (h : Memory.AgreeOn (target.ValueReads value) target.memory memory) :
    (target.withMemory memory).readBytes value = target.readBytes value := by
  apply Except.bind_congr_of_ok
  intro size hsize
  split
  · next address hlocation => exact (Memory.read_congr (h address size ⟨hlocation, hsize⟩)).symm
  · rfl

theorem readBits_withMemory (h : Memory.AgreeOn (target.ValueReads value) target.memory memory) :
    (target.withMemory memory).readBits value = target.readBits value := by
  unfold readBits
  rw [readBytes_withMemory h]

theorem readInteger_withMemory (h : Memory.AgreeOn (target.ValueReads value) target.memory memory) :
    (target.withMemory memory).readInteger value = target.readInteger value := by
  rw [readInteger, readBits_withMemory h, readInteger]

theorem dereference_withMemory (h : Memory.AgreeOn (target.ValueReads value) target.memory memory) :
    (target.withMemory memory).dereference value = target.dereference value := by
  unfold dereference
  rw [readBits_withMemory h]

/-! ## Arrays -/

/-- The reads that the elements of an array take, but for those past the end of the address space. -/
def ArrayReads (target : Target) (start : UInt64) (type : CType) (count : Nat) (address : UInt64)
    (size : Nat) : Prop :=
  target.types.valueSize type = .ok size ∧ ∃ index < count,
    start.toNat + index * size < UInt64.size ∧ address = UInt64.ofNat (start.toNat + index * size)

theorem elementError?_withMemory {size index : Nat} (h : address.toNat + index * size < UInt64.size →
    target.memory.bytes? (UInt64.ofNat (address.toNat + index * size)) size =
      memory.bytes? (UInt64.ofNat (address.toNat + index * size)) size) :
    (target.withMemory memory).elementError? address size count index =
      target.elementError? address size count index := by
  unfold elementError?
  by_cases hbelow : address.toNat + index * size < UInt64.size
  · have hbytes : (target.withMemory memory).memory.bytes? (UInt64.ofNat (address.toNat + index * size))
        size = target.memory.bytes? (UInt64.ofNat (address.toNat + index * size)) size :=
      (h hbelow).symm
    simp only [if_pos hbelow, hbytes]
  · simp only [if_neg hbelow]

theorem firstElementError?_congr {other : Target} {size first remaining : Nat}
    (h : ∀ index, first ≤ index → index < first + remaining →
      other.elementError? address size count index = target.elementError? address size count index) :
    other.firstElementError? address size count first remaining =
      target.firstElementError? address size count first remaining := by
  induction remaining generalizing first with
  | zero => rfl
  | succ remaining ih =>
    have hrest : other.firstElementError? address size count (first + 1) remaining =
        target.firstElementError? address size count (first + 1) remaining :=
      ih fun index hle hlt ↦ h index (by omega) (by omega)
    rw [firstElementError?, firstElementError?, h first (Nat.le_refl _) (by omega), hrest]

theorem readArray_withMemory
    (h : Memory.AgreeOn (target.ArrayReads address type count) target.memory memory) :
    (target.withMemory memory).readArray address type count = target.readArray address type count := by
  apply Except.bind_congr_of_ok
  intro size hsize
  have hfirst : (target.withMemory memory).firstElementError? address size count 0 count =
      target.firstElementError? address size count 0 count := by
    apply firstElementError?_congr
    intro index _ hlt
    apply elementError?_withMemory
    intro hbelow
    exact h _ size ⟨hsize, index, by omega, hbelow, rfl⟩
  rw [hfirst]

end Target

end MemoryInspector
