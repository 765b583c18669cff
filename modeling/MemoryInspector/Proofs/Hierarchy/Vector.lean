import MemoryInspector.Hierarchy.Node
import MemoryInspector.Proofs.Hierarchy.Layouts
import MemoryInspector.Proofs.Target.Reading

/-!
# Slots of a vector

The slots of a vector are the words from its data pointer on, as many as its length says. They are
read if all of these words can be, and else nothing is read of them. The members lie at fixed places
under the built-in layouts.
-/

namespace MemoryInspector.Hierarchy

theorem resolve_nodePointer :
    types.resolve s!"{nodeType} *" = .ok (.pointer (.record nodeType)) := by
  have hread : TypeName.read? (s!"{nodeType} *").toList = some ⟨false, nodeType, 1, none⟩ := by
    decide +kernel
  have hbase : types.baseType? false nodeType = some (.record nodeType) := by decide
  rw [Registry.resolve, hread, Option.bind_some, Registry.typeNamed?, hbase]
  rfl

/-- A member under one of the built-in layouts. -/
theorem field_eq {target : Target} {record name : String} {address offset : UInt64} {type : CType}
    {layout : RecordLayout} (htypes : target.types = types)
    (hlayout : types.record? record = some layout)
    (hfield : layout.field? name = some ⟨name, offset, type⟩) :
    target.field (.atAddress address (.record record)) name =
      .ok (.atAddress (address + offset) type) :=
  Target.field_eq_ok_iff.2 ⟨record, address, layout, _, rfl, htypes ▸ hlayout, hfield, rfl⟩

namespace VectorView

variable {target : Target} {address : UInt64} {pointee : CType} {slots : List Value}

theorem ofValue_record (htypes : target.types = types) :
    ofValue target (.atAddress address (.record vectorType)) =
      .ok ⟨.atAddress address (.record vectorType)⟩ := by
  have hrecord : target.types.record vectorType = .ok vectorLayout :=
    Registry.record_eq_ok_iff.2 (htypes ▸ record?_vectorType)
  have hmembers : [dataMember, lengthMember].find? (fun name ↦ (vectorLayout.field? name).isNone) =
      none := by decide
  simp only [ofValue, Value.type_atAddress, Except.ok_bind, hrecord, hmembers]

/-! ## Slots in memory -/

/-- The slots of a vector lie one after another from its data pointer on; all of them have to be
readable. Those of an empty vector need no data. -/
theorem slots_eq_ok_iff {vector : VectorView} :
    vector.slots target pointee = .ok slots ↔
      ∃ count, vector.length target = .ok count ∧
        (count = 0 ∧ slots = [] ∨
          count ≠ 0 ∧ ∃ data, vector.data target = .ok data ∧
            (∀ index < count.toNat, target.ElementReadable data 8 index) ∧
            slots = (List.range count.toNat).map fun index ↦
              .atAddress (UInt64.ofNat (data.toNat + index * 8)) (.pointer pointee)) := by
  rw [VectorView.slots, Except.bind_eq_ok_iff]
  apply exists_congr
  intro count
  apply and_congr_right
  intro hcount
  by_cases hzero : count = 0
  · simp only [hzero, if_true, true_and, ne_eq, not_true_eq_false, false_and, or_false,
      Except.ok.injEq, eq_comm]
  · rw [if_neg hzero, Except.bind_eq_ok_iff]
    simp only [hzero, false_and, false_or, ne_eq, not_false_eq_true, true_and,
      Target.readArray_eq_ok_iff, Registry.valueSize_pointer, Except.ok.injEq, exists_eq_left']

/-- The slots of a vector are pointers to the type that is asked for. -/
theorem type_of_mem_slots {vector : VectorView} (hslots : vector.slots target pointee = .ok slots) :
    ∀ slot ∈ slots, slot.type = .pointer pointee := by
  intro slot hslot
  obtain ⟨count, -, ⟨-, rfl⟩ | ⟨-, data, -, -, rfl⟩⟩ := slots_eq_ok_iff.1 hslots
  · cases hslot
  · obtain ⟨index, -, rfl⟩ := List.mem_map.1 hslot
    rfl

/-- A vector has as many slots as it says. -/
theorem length_slots {vector : VectorView} {count : UInt64}
    (hslots : vector.slots target pointee = .ok slots) (hcount : vector.length target = .ok count) : slots.length = count.toNat := by
  obtain ⟨count', hcount', hrest⟩ := slots_eq_ok_iff.1 hslots
  cases hcount.symm.trans hcount'
  rcases hrest with ⟨rfl, rfl⟩ | ⟨-, data, -, -, rfl⟩
  · rfl
  · rw [List.length_map, List.length_range]

/-- Why the slots of a vector cannot be read: the failure to read its length, its data pointer if
the length is not zero, or the first slot in use that cannot be read. -/
inductive SlotsUnreadable (target : Target) (vector : VectorView) : InspectError → Prop
  | length {e : InspectError} (h : vector.length target = .error e) : SlotsUnreadable target vector e
  | data {count : UInt64} {e : InspectError} (hcount : vector.length target = .ok count)
      (hne : count ≠ 0) (h : vector.data target = .error e) : SlotsUnreadable target vector e
  | slot {count data : UInt64} {index : Nat} {e : InspectError}
      (hcount : vector.length target = .ok count) (hdata : vector.data target = .ok data)
      (hindex : index < count.toNat) (hbefore : ∀ before < index, target.ElementReadable data 8 before)
      (h : target.elementError? data 8 count.toNat index = some e) : SlotsUnreadable target vector e

theorem slots_eq_error_iff {vector : VectorView} {e : InspectError} :
    vector.slots target pointee = .error e ↔ SlotsUnreadable target vector e := by
  have hsize := target.types.valueSize_pointer pointee
  constructor
  · intro h
    cases hcount : vector.length target with
    | error e' =>
      rw [VectorView.slots, hcount] at h
      cases h
      exact .length hcount
    | ok count =>
      rw [VectorView.slots, hcount, Except.ok_bind] at h
      split at h
      · cases h
      · next hne =>
        cases hdata : vector.data target with
        | error e' =>
          rw [hdata] at h
          cases h
          exact .data hcount hne hdata
        | ok data =>
          rw [hdata, Except.ok_bind, Target.readArray_eq_error_iff hsize] at h
          obtain ⟨index, hindex, hbefore, herror⟩ := h
          exact .slot hcount hdata hindex hbefore herror
  · intro h
    rw [VectorView.slots]
    cases h with
    | length h =>
      rw [h]
      rfl
    | data hcount hne h =>
      rw [hcount, Except.ok_bind, if_neg hne, h]
      rfl
    | slot hcount hdata hindex hbefore herror =>
      rw [hcount, Except.ok_bind, if_neg, hdata, Except.ok_bind, Target.readArray_eq_error_iff hsize]
      · exact ⟨_, hindex, hbefore, herror⟩
      · rintro rfl
        exact absurd hindex (Nat.not_lt_zero _)

/-! ## Vectors of the built-in layout -/

theorem length_atAddress (htypes : target.types = types) :
    (VectorView.mk (.atAddress address (.record vectorType))).length target =
      target.readBits (.atAddress (address + 16) (.scalar .uint64)) := by
  have hlength : target.field (.atAddress address (.record vectorType)) lengthMember =
      .ok (.atAddress (address + 16) (.scalar .uint64)) :=
    field_eq htypes record?_vectorType (by decide)
  rw [length, hlength, Except.ok_bind]

theorem data_atAddress (htypes : target.types = types) :
    (VectorView.mk (.atAddress address (.record vectorType))).data target =
      target.readBits (.atAddress (address + 40) (.pointer (.pointer .void))) := by
  have hdata : target.field (.atAddress address (.record vectorType)) dataMember =
      .ok (.atAddress (address + 40) (.pointer (.pointer .void))) :=
    field_eq htypes record?_vectorType (by decide)
  rw [data, hdata, Except.ok_bind]

theorem slots_atAddress (htypes : target.types = types) (pointee : CType) :
    (VectorView.mk (.atAddress address (.record vectorType))).slots target pointee = (do
      let count ← target.readBits (.atAddress (address + 16) (.scalar .uint64))
      if count = 0 then .ok []
      else
        let data ← target.readBits (.atAddress (address + 40) (.pointer (.pointer .void)))
        target.readArray data (.pointer pointee) count.toNat) := by
  rw [VectorView.slots, length_atAddress htypes, data_atAddress htypes]

/-- The slots of a vector of the built-in layout. -/
theorem slots_atAddress_eq_ok_iff (htypes : target.types = types) :
    (VectorView.mk (.atAddress address (.record vectorType))).slots target pointee = .ok slots ↔
      ∃ count, target.readBits (.atAddress (address + 16) (.scalar .uint64)) = .ok count ∧
        (count = 0 ∧ slots = [] ∨
          count ≠ 0 ∧ ∃ data,
            target.readBits (.atAddress (address + 40) (.pointer (.pointer .void))) = .ok data ∧
            (∀ index < count.toNat, target.ElementReadable data 8 index) ∧
            slots = (List.range count.toNat).map fun index ↦
              .atAddress (UInt64.ofNat (data.toNat + index * 8)) (.pointer pointee)) := by
  rw [slots_eq_ok_iff, length_atAddress htypes, data_atAddress htypes]

end VectorView

end MemoryInspector.Hierarchy
