import MemoryInspector.Proofs.Registry
import MemoryInspector.Target

/-!
# Access to members and pointers

When the members of records and the values behind pointers exist, and which values they are.
-/

namespace MemoryInspector

namespace Value

variable {value : Value} {address : UInt64} {type : CType}

theorem address?_eq_some_iff : value.address? = some address ↔ value = .atAddress address value.type := by
  obtain ⟨_ | _, _⟩ := value <;> simp [address?, atAddress]

@[simp]
theorem address?_atAddress : (atAddress address type).address? = some address := rfl

@[simp]
theorem type_atAddress : (atAddress address type).type = type := rfl

@[simp]
theorem type_ofBits : (ofBits address type).type = type := rfl

theorem eq_atAddress_iff :
    value = .atAddress address type ↔ value.address? = some address ∧ value.type = type := by
  obtain ⟨_ | _, _⟩ := value <;> simp [address?, atAddress]

end Value

namespace Target

variable {target : Target} {value result : Value} {name : String}

theorem symbol?_eq_some_iff : target.symbol? name = some result ↔ ∃ address,
    target.symbols[name]? = some address ∧
      result = .atAddress address (target.symbolTypes[name]?.getD .void) := by
  rw [symbol?, Option.map_eq_some_iff]
  simp only [eq_comm]

theorem field_eq_ok_iff : target.field value name = .ok result ↔
    ∃ record address layout field, value = .atAddress address (.record record) ∧
      target.types.record? record = some layout ∧ layout.field? name = some field ∧
      result = .atAddress (address + field.offset) field.type := by
  unfold field
  split
  · next record htype =>
    simp only [Except.bind_eq_ok_iff, Registry.record_eq_ok_iff]
    constructor
    · intro h
      rcases h with ⟨layout, hlayout, h⟩
      split at h
      · next field address hfield haddress =>
        cases h
        have hvalue := Value.eq_atAddress_iff.2 ⟨haddress, htype⟩
        exact ⟨record, address, layout, field, hvalue, hlayout, hfield, rfl⟩
      · cases h
    · intro h
      rcases h with ⟨record', address, layout, field, rfl, hlayout, hfield, rfl⟩
      cases htype
      exact ⟨layout, hlayout, by simp only [hfield, Value.address?_atAddress]⟩
  · next htype =>
    simp only [reduceCtorEq, false_iff]
    intro h
    rcases h with ⟨record, address, layout, field, rfl, -⟩
    exact htype record rfl

theorem dereference_eq_ok_iff : target.dereference value = .ok result ↔
    ∃ pointee address, value.type = .pointer pointee ∧ target.readBits value = .ok address ∧
      result = .atAddress address pointee := by
  unfold dereference
  split
  · next pointee htype =>
    simp only [Except.bind_eq_ok_iff, htype]
    constructor
    · intro h
      rcases h with ⟨address, hread, ⟨⟩⟩
      exact ⟨pointee, address, rfl, hread, rfl⟩
    · intro h
      rcases h with ⟨pointee', address, ⟨⟩, hread, rfl⟩
      exact ⟨address, hread, rfl⟩
  · next htype =>
    simp only [reduceCtorEq, false_iff]
    intro h
    rcases h with ⟨pointee, address, hpointer, -⟩
    exact htype pointee hpointer

/-- Only scalars and pointers have bits. -/
theorem type_of_readBits {bits : UInt64} (h : target.readBits value = .ok bits) :
    (∃ kind, value.type = .scalar kind) ∨ ∃ pointee, value.type = .pointer pointee := by
  unfold readBits at h
  split at h
  · next kind htype => exact .inl ⟨kind, htype⟩
  · next pointee htype => exact .inr ⟨pointee, htype⟩
  · cases h

end Target

end MemoryInspector
