import MemoryInspector.Proofs.Memory.Contents
import MemoryInspector.Proofs.Target.Access

/-!
# Reading values

What is read of scalars, pointers and arrays, in terms of the bytes of the memory.
-/

namespace MemoryInspector

open Text

@[simp]
theorem Registry.valueSize_scalar (types : Registry) (kind : Scalar) :
    types.valueSize (.scalar kind) = .ok kind.size := by
  cases kind <;> rfl

@[simp]
theorem Registry.valueSize_pointer (types : Registry) (pointee : CType) :
    types.valueSize (.pointer pointee) = .ok 8 := rfl

namespace Target

variable {target : Target} {address bits : UInt64} {type pointee : CType} {kind : Scalar}
  {size count : Nat} {bytes : List UInt8}

theorem readBytes_atAddress (hsize : target.types.valueSize type = .ok size)
    (hbytes : target.memory.bytes? address size = some bytes) :
    target.readBytes (.atAddress address type) = .ok bytes := by
  simp only [readBytes, Value.type_atAddress, hsize, Except.ok_bind]
  exact Memory.read_eq_ok_iff.2 hbytes

/-! ## Words -/

theorem readBits_pointer (h : target.memory.bytes? address 8 = some (wordBytes bits)) :
    target.readBits (.atAddress address (.pointer pointee)) = .ok bits := by
  have hbytes := readBytes_atAddress (target.types.valueSize_pointer pointee) h
  simp only [readBits, Value.type_atAddress, hbytes, Except.ok_bind, ofLittleEndian_wordBytes]

theorem readBits_scalar (hkind : kind.size = 8)
    (h : target.memory.bytes? address 8 = some (wordBytes bits)) :
    target.readBits (.atAddress address (.scalar kind)) = .ok bits := by
  have hsize : target.types.valueSize (.scalar kind) = .ok 8 := by
    rw [Registry.valueSize_scalar, hkind]
  have hbytes := readBytes_atAddress hsize h
  simp only [readBits, Value.type_atAddress, hbytes, Except.ok_bind, ofLittleEndian_wordBytes]

theorem readBits_pointer_eq_ok_iff {pointee : CType} :
    target.readBits (.atAddress address (.pointer pointee)) = .ok bits ↔
      target.memory.word? address = some bits := by
  have hread : target.readBits (.atAddress address (.pointer pointee)) =
      (target.memory.read address 8).map fun bytes ↦ UInt64.ofNat (ofLittleEndian bytes) := rfl
  rw [hread, Except.map_eq_ok_iff, Memory.word?, Option.map_eq_some_iff]
  simp only [Memory.read_eq_ok_iff]

/-- An unsigned number of eight bytes is read like a pointer. -/
theorem readBits_uint64_eq_ok_iff :
    target.readBits (.atAddress address (.scalar .uint64)) = .ok bits ↔
      target.memory.word? address = some bits := by
  have hpointer : target.readBits (.atAddress address (.scalar .uint64)) =
      target.readBits (.atAddress address (.pointer .void)) := rfl
  rw [hpointer, readBits_pointer_eq_ok_iff]

/-- The bits of a pointer in memory do not depend on what it points to. -/
theorem readBits_pointer_congr (address : UInt64) (pointee pointee' : CType) :
    target.readBits (.atAddress address (.pointer pointee)) =
      target.readBits (.atAddress address (.pointer pointee')) := rfl

theorem readBits_ofBits_pointer (bits : UInt64) (pointee : CType) :
    target.readBits (.ofBits bits (.pointer pointee)) = .ok bits := by
  have hbytes : target.readBytes (.ofBits bits (.pointer pointee)) = .ok (wordBytes bits) := rfl
  simp only [readBits, Value.type_ofBits, hbytes, Except.ok_bind, ofLittleEndian_wordBytes]

/-- Eight bytes in two's complement. -/
theorem signedValue_toUInt64 (number : Int64) :
    signedValue 8 number.toUInt64 = number.toInt := by
  rw [signedValue, Nat.sub_self, BitVec.sshiftRight_zero, BitVec.shiftLeft_zero]
  rfl

theorem readInteger_int64 {number : Int64}
    (h : target.memory.bytes? address 8 = some (wordBytes number.toUInt64)) :
    target.readInteger (.atAddress address (.scalar .int64)) = .ok number.toInt := by
  have hbits : target.readBits (.atAddress address (.scalar .int64)) = .ok number.toUInt64 :=
    readBits_scalar rfl h
  simp only [readInteger, hbits, Except.ok_bind, Value.type_atAddress, Scalar.isSigned, Scalar.size,
    signedValue_toUInt64, if_true]

/-! ## Arrays -/

/-- The element at an index, if the array starts at the address, can be read. -/
def ElementReadable (target : Target) (address : UInt64) (size index : Nat) : Prop :=
  address.toNat + index * size < UInt64.size ∧
    (target.memory.bytes? (UInt64.ofNat (address.toNat + index * size)) size).isSome

theorem elementError?_eq_none_iff {index : Nat} :
    target.elementError? address size count index = none ↔
      target.ElementReadable address size index := by
  unfold elementError? ElementReadable
  by_cases hstart : address.toNat + index * size < UInt64.size
  · simp only [hstart, if_true, true_and]
    split
    · next hsome => simp only [hsome]
    · next hnone => simp only [hnone, reduceCtorEq]
  · simp only [hstart, if_false, false_and, reduceCtorEq]

theorem firstElementError?_eq_none_iff {first remaining : Nat} :
    target.firstElementError? address size count first remaining = none ↔
      ∀ index, first ≤ index → index < first + remaining →
        target.ElementReadable address size index := by
  induction remaining generalizing first with
  | zero =>
    simp only [firstElementError?, true_iff]
    intro index hle hlt
    omega
  | succ remaining ih =>
    rw [firstElementError?]
    constructor
    · intro h index hle hlt
      split at h
      · cases h
      · next hnone =>
        rcases Nat.eq_or_lt_of_le hle with rfl | hlt'
        · exact elementError?_eq_none_iff.1 hnone
        · exact ih.1 h index hlt' (by omega)
    · intro h
      have hfirst : target.elementError? address size count first = none :=
        elementError?_eq_none_iff.2 (h first (Nat.le_refl _) (by omega))
      rw [hfirst]
      exact ih.2 fun index hle hlt ↦ h index (by omega) (by omega)

/-- The failure is that of the first element that cannot be read. -/
theorem firstElementError?_eq_some_iff {first remaining : Nat} {e : InspectError} :
    target.firstElementError? address size count first remaining = some e ↔
      ∃ index, first ≤ index ∧ index < first + remaining ∧
        (∀ before, first ≤ before → before < index → target.ElementReadable address size before) ∧
        target.elementError? address size count index = some e := by
  induction remaining generalizing first with
  | zero =>
    simp only [firstElementError?, reduceCtorEq, false_iff, not_exists, not_and]
    intro index hle hlt
    omega
  | succ remaining ih =>
    rw [firstElementError?]
    constructor
    · intro h
      split at h
      · next e' herror =>
        cases h
        exact ⟨first, Nat.le_refl _, by omega, fun before hle hlt ↦ absurd hlt (by omega), herror⟩
      · next hnone =>
        obtain ⟨index, hle, hlt, hbefore, herror⟩ := ih.1 h
        refine ⟨index, by omega, by omega, ?_, herror⟩
        intro before hle' hlt'
        rcases Nat.eq_or_lt_of_le hle' with rfl | hlater
        · exact elementError?_eq_none_iff.1 hnone
        · exact hbefore before hlater hlt'
    · rintro ⟨index, hle, hlt, hbefore, herror⟩
      rcases Nat.eq_or_lt_of_le hle with rfl | hlater
      · rw [herror]
      · have hnone : target.elementError? address size count first = none :=
          elementError?_eq_none_iff.2 (hbefore first (Nat.le_refl _) hlater)
        rw [hnone]
        exact ih.2 ⟨index, hlater, by omega, fun before hle' ↦ hbefore before (by omega), herror⟩

/-- An array is read if each of its elements can be. -/
theorem readArray_eq_ok_iff {elements : List Value} :
    target.readArray address type count = .ok elements ↔
      ∃ size, target.types.valueSize type = .ok size ∧
        (∀ index < count, target.ElementReadable address size index) ∧
        elements = (List.range count).map fun index ↦
          .atAddress (UInt64.ofNat (address.toNat + index * size)) type := by
  unfold readArray
  rw [Except.bind_eq_ok_iff]
  apply exists_congr
  intro size
  apply and_congr_right
  intro hsize
  have hreadable : target.firstElementError? address size count 0 count = none ↔
      ∀ index < count, target.ElementReadable address size index := by
    rw [firstElementError?_eq_none_iff]
    simp only [Nat.zero_le, Nat.zero_add, forall_const]
  cases herror : target.firstElementError? address size count 0 count with
  | none =>
    rw [Except.ok.injEq, and_iff_right (hreadable.1 herror), eq_comm]
  | some e =>
    have hnot : ¬ ∀ index < count, target.ElementReadable address size index := by
      rw [← hreadable, herror]
      exact Option.some_ne_none e
    simp only [hnot, false_and, reduceCtorEq]

/-- The failure to read an array of readable size is that of its first element that cannot be read. -/
theorem readArray_eq_error_iff {e : InspectError} (hsize : target.types.valueSize type = .ok size) :
    target.readArray address type count = .error e ↔
      ∃ index < count, (∀ before < index, target.ElementReadable address size before) ∧
        target.elementError? address size count index = some e := by
  have hfirst := @firstElementError?_eq_some_iff target address size count 0 count e
  simp only [Nat.zero_le, true_and, Nat.zero_add, forall_const] at hfirst
  rw [← hfirst, readArray, hsize, Except.ok_bind]
  split
  · next e' he => rw [he, Except.error.injEq, Option.some.injEq]
  · next hnone => simp only [hnone, reduceCtorEq]

end Target

end MemoryInspector
