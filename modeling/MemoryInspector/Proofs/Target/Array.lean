import MemoryInspector.Hierarchy.Layouts
import MemoryInspector.Proofs.Target.Reading

/-!
# Reading arrays

An array is read element by element: all of them or none. A failure names the first element that
cannot be read, or the whole array where that element would lie behind the address space.
-/

namespace MemoryInspector

open Text

namespace Target

variable {target : Target} {type : CType} {size : Nat}

theorem exists_readArray_iff (hsize : target.types.valueSize type = .ok size) (address : UInt64)
    (count : Nat) : (∃ elements, target.readArray address type count = .ok elements) ↔
      ∀ index < count, target.ElementReadable address size index := by
  constructor
  · rintro ⟨elements, helements⟩
    obtain ⟨size', hsize', hreadable, -⟩ := readArray_eq_ok_iff.1 helements
    cases hsize.symm.trans hsize'
    exact hreadable
  · intro hreadable
    exact ⟨_, readArray_eq_ok_iff.2 ⟨size, hsize, hreadable, rfl⟩⟩

/-- The elements follow one another without gaps and without passing the end of the address space. -/
theorem getElem?_of_readArray (hsize : target.types.valueSize type = .ok size) {address : UInt64}
    {count : Nat} {elements : List Value}
    (helements : target.readArray address type count = .ok elements) {index : Nat}
    (hindex : index < count) :
    ∃ place : UInt64, place.toNat = address.toNat + index * size ∧
      elements[index]? = some (.atAddress place type) := by
  obtain ⟨size', hsize', hreadable, rfl⟩ := readArray_eq_ok_iff.1 helements
  cases hsize.symm.trans hsize'
  refine ⟨_, UInt64.toNat_ofNat_of_lt' (hreadable index hindex).1, ?_⟩
  rw [List.getElem?_map, List.getElem?_range hindex, Option.map_some]

/-- The failure of an element in the address space, and of one behind it. -/
theorem elementError?_of_not_readable {address : UInt64} {index : Nat}
    (h : ¬ target.ElementReadable address size index) (count : Nat) :
    (∀ place : UInt64, place.toNat = address.toNat + index * size →
      target.elementError? address size count index = some (.unreadable place size)) ∧
    (UInt64.size ≤ address.toNat + index * size →
      target.elementError? address size count index =
        some (.unreadable address (min (count * size) (UInt64.size - 1)))) := by
  constructor
  · intro place hplace
    have hlt : address.toNat + index * size < UInt64.size := hplace ▸ place.toNat_lt_size
    have hnone : ¬ (target.memory.bytes? (UInt64.ofNat (address.toNat + index * size)) size).isSome :=
      fun hsome ↦ h ⟨hlt, hsome⟩
    have hofNat : UInt64.ofNat (address.toNat + index * size) = place := by
      rw [← hplace, UInt64.ofNat_toNat]
    rw [hofNat] at hnone
    simp only [elementError?, if_pos hlt, hofNat, if_neg hnone]
  · intro hle
    simp only [elementError?, if_neg (Nat.not_lt.2 hle)]

/-- An array is read whole if each of its elements can be read. Else the failure is that of the first
element that cannot be read, and no shorter list is returned. -/
theorem readArray_reads_every_element (hsize : target.types.valueSize type = .ok size)
    (address : UInt64) (count : Nat) :
    ((∃ elements, target.readArray address type count = .ok elements) ↔
      ∀ index < count, target.ElementReadable address size index) ∧
    (∀ elements, target.readArray address type count = .ok elements →
      elements.length = count ∧ ∀ index < count, ∃ place : UInt64,
        place.toNat = address.toNat + index * size ∧
          elements[index]? = some (.atAddress place type)) ∧
    ∀ index < count, (∀ before < index, target.ElementReadable address size before) →
      ¬ target.ElementReadable address size index →
        (∀ place : UInt64, place.toNat = address.toNat + index * size →
          target.readArray address type count = .error (.unreadable place size)) ∧
        (UInt64.size ≤ address.toNat + index * size →
          target.readArray address type count =
            .error (.unreadable address (min (count * size) (UInt64.size - 1)))) := by
  refine ⟨exists_readArray_iff hsize address count, ?_, ?_⟩
  · intro elements helements
    refine ⟨?_, fun index ↦ getElem?_of_readArray hsize helements⟩
    obtain ⟨size', -, -, rfl⟩ := readArray_eq_ok_iff.1 helements
    rw [List.length_map, List.length_range]
  · intro index hindex hbefore hfailed
    obtain ⟨hinside, hbehind⟩ := elementError?_of_not_readable hfailed count
    constructor
    · intro place hplace
      exact (readArray_eq_error_iff hsize).2 ⟨index, hindex, hbefore, hinside place hplace⟩
    · intro hle
      exact (readArray_eq_error_iff hsize).2 ⟨index, hindex, hbefore, hbehind hle⟩

/-- Sixteen mapped bytes, which are room for two numbers. -/
def twoLongs : Target where
  memory := (Snapshot.ofBytes 0x10F0 (Array.replicate 16 0)).memory
  types := Hierarchy.types
  symbols := ∅
  symbolTypes := ∅

theorem readArray_reads_every_element_twoLongs :
    twoLongs.types.valueSize (.scalar .int64) = .ok 8 ∧
    (∀ before < 2, twoLongs.ElementReadable 0x10F0 8 before) ∧
    ¬ twoLongs.ElementReadable 0x10F0 8 2 ∧
    (∃ elements, twoLongs.readArray 0x10F0 (.scalar .int64) 2 = .ok elements) ∧
    twoLongs.readArray 0x10F0 (.scalar .int64) 3 = .error (.unreadable 0x1100 8) := by
  have hsize : twoLongs.types.valueSize (.scalar .int64) = .ok 8 := by decide
  have hreadable : ∀ before < 2, twoLongs.ElementReadable 0x10F0 8 before := by
    unfold ElementReadable
    decide
  have hfailed : ¬ twoLongs.ElementReadable 0x10F0 8 2 := by
    unfold ElementReadable
    decide
  refine ⟨hsize, hreadable, hfailed, ?_, ?_⟩
  · exact (readArray_reads_every_element hsize 0x10F0 2).1.2 hreadable
  · exact ((readArray_reads_every_element hsize 0x10F0 3).2.2 2 (by decide) hreadable hfailed).1 0x1100
      (by decide)

end Target

end MemoryInspector
