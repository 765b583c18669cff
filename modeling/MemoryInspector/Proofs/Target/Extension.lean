import MemoryInspector.Proofs.Memory.Extension
import MemoryInspector.Proofs.Target.Agreement

/-!
# Reads in an extended memory

What is read of a value in one memory is read alike in a memory that extends it: no operation makes a
success of a failed read.
-/

namespace MemoryInspector.Target

variable {target : Target} {memory : Memory} {value result : Value} {bits address : UInt64}
  {type : CType} {count : Nat}

section

variable (h : target.memory.ExtendedBy memory)
include h

theorem readBytes_extended {bytes : List UInt8} (hread : target.readBytes value = .ok bytes) :
    (target.withMemory memory).readBytes value = .ok bytes := by
  obtain ⟨size, hsize, hbytes⟩ := Except.bind_eq_ok_iff.1 hread
  refine Except.bind_eq_ok_iff.2 ⟨size, hsize, ?_⟩
  split at hbytes
  · exact h.read_eq_ok hbytes
  · exact hbytes

theorem readBits_extended (hread : target.readBits value = .ok bits) :
    (target.withMemory memory).readBits value = .ok bits := by
  unfold readBits at hread ⊢
  split at hread
  · obtain ⟨bytes, hbytes, hbits⟩ := Except.bind_eq_ok_iff.1 hread
    exact Except.bind_eq_ok_iff.2 ⟨bytes, readBytes_extended h hbytes, hbits⟩
  · obtain ⟨bytes, hbytes, hbits⟩ := Except.bind_eq_ok_iff.1 hread
    exact Except.bind_eq_ok_iff.2 ⟨bytes, readBytes_extended h hbytes, hbits⟩
  · cases hread

theorem readInteger_extended {number : Int} (hread : target.readInteger value = .ok number) :
    (target.withMemory memory).readInteger value = .ok number := by
  obtain ⟨bits, hbits, hnumber⟩ := Except.bind_eq_ok_iff.1 hread
  exact Except.bind_eq_ok_iff.2 ⟨bits, readBits_extended h hbits, hnumber⟩

theorem dereference_extended (hread : target.dereference value = .ok result) :
    (target.withMemory memory).dereference value = .ok result := by
  obtain ⟨pointee, address, htype, hbits, rfl⟩ := dereference_eq_ok_iff.1 hread
  exact dereference_eq_ok_iff.2 ⟨pointee, address, htype, readBits_extended h hbits, rfl⟩

theorem ElementReadable.extended {size index : Nat} (hread : target.ElementReadable address size index) :
    (target.withMemory memory).ElementReadable address size index := by
  obtain ⟨hbelow, hsome⟩ := hread
  obtain ⟨bytes, hbytes⟩ := Option.isSome_iff_exists.1 hsome
  exact ⟨hbelow, Option.isSome_iff_exists.2 ⟨bytes, h _ _ bytes hbytes⟩⟩

theorem readArray_extended {elements : List Value}
    (hread : target.readArray address type count = .ok elements) :
    (target.withMemory memory).readArray address type count = .ok elements := by
  obtain ⟨size, hsize, hreadable, rfl⟩ := readArray_eq_ok_iff.1 hread
  exact readArray_eq_ok_iff.2 ⟨size, hsize, fun index hindex ↦ (hreadable index hindex).extended h, rfl⟩

end

end MemoryInspector.Target
