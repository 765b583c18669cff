import MemoryInspector.Proofs.Expression.Conversion
import MemoryInspector.Proofs.Expression.Failure

/-!
# Values without a place

Every value of an expression lies in memory or is a word, a scalar or a pointer of a few bytes. A word
without a place has no bits beyond its type, so that reading it gives all of its bits back. The other
operations of the inspector yield values in memory alone.
-/

namespace MemoryInspector

open Text

instance : DecidablePred CType.IsWord := fun type ↦
  match type with
  | .scalar _ | .pointer _ => .isTrue trivial
  | .void | .array _ _ | .record _ => .isFalse id

namespace Value

variable {value : Value}

/-- The value lies in memory, or it is a word, which needs no place. -/
def IsPlaced (value : Value) : Prop := value.address?.isSome ∨ value.type.IsWord

instance : DecidablePred IsPlaced := fun _ ↦ inferInstanceAs (Decidable (_ ∨ _))

theorem isPlaced_atAddress (address : UInt64) (type : CType) : (atAddress address type).IsPlaced :=
  .inl rfl

/-- Arrays and records, and values of type `void`, need a place. -/
theorem isPlaced_iff_isSome (htype : ¬ value.type.IsWord) : value.IsPlaced ↔ value.address?.isSome :=
  or_iff_left htype

end Value

namespace Target

variable {target : Target} {value result : Value} {name : String}

theorem isPlaced_of_field (h : target.field value name = .ok result) : result.IsPlaced := by
  obtain ⟨_, _, _, _, _, _, _, rfl⟩ := field_eq_ok_iff.1 h
  exact Value.isPlaced_atAddress _ _

theorem isPlaced_of_dereference (h : target.dereference value = .ok result) : result.IsPlaced := by
  obtain ⟨_, _, _, _, rfl⟩ := dereference_eq_ok_iff.1 h
  exact Value.isPlaced_atAddress _ _

theorem isPlaced_of_mem_readArray {address : UInt64} {type : CType} {count : Nat}
    {elements : List Value} (h : target.readArray address type count = .ok elements) :
    ∀ element ∈ elements, element.IsPlaced := by
  obtain ⟨_, _, _, rfl⟩ := readArray_eq_ok_iff.1 h
  intro element helement
  obtain ⟨_, _, rfl⟩ := List.mem_map.1 helement
  exact Value.isPlaced_atAddress _ _

end Target

namespace Expression

variable {target : Target} {text : String} {value : Value}

/-- A word without bits beyond its type. -/
inductive IsWholeWord : Value → Prop where
  | pointer (bits : UInt64) (pointee : CType) : IsWholeWord (.ofBits bits (.pointer pointee))
  | scalar {bits : UInt64} {kind : Scalar} : bits.toNat < valueCount kind.size →
      IsWholeWord (.ofBits bits (.scalar kind))

theorem isWholeWord_truncated (bits : UInt64) (kind : Scalar) :
    IsWholeWord (.ofBits (UInt64.ofNat (bits.toNat % valueCount kind.size)) (.scalar kind)) := by
  have hpos : 0 < valueCount kind.size := by cases kind <;> decide
  have hlt : bits.toNat % valueCount kind.size < UInt64.size :=
    Nat.lt_of_le_of_lt (Nat.mod_le _ _) bits.toNat_lt
  apply IsWholeWord.scalar
  rw [UInt64.toNat_ofNat_of_lt' hlt]
  exact Nat.mod_lt _ hpos

/-- All bits of a whole word are read. -/
theorem readBits_of_isWholeWord {bits : UInt64} {type : CType} (h : IsWholeWord (.ofBits bits type)) :
    target.readBits (.ofBits bits type) = .ok bits := by
  cases h with
  | pointer => exact Target.readBits_ofBits_pointer _ _
  | scalar hlt => rw [Target.readBits_ofBits_scalar, Nat.mod_eq_of_lt hlt, UInt64.ofNat_toNat]

/-- The rules give values in memory and whole words. -/
theorem Term.Denotes.located {term : Term} (h : term.Denotes target value) :
    value.address?.isSome ∨ IsWholeWord value := by
  cases h with
  | integer value => exact .inr (.scalar value.toNat_lt)
  | symbol | member | arrow | subscript | contentsPointer | contentsArray => exact .inl rfl
  | addressOf | castPointer => exact .inr (.pointer _ _)
  | castScalar => exact .inr (isWholeWord_truncated _ _)

theorem Term.Denotes.isPlaced {term : Term} (h : term.Denotes target value) : value.IsPlaced := by
  rcases h.located with hplace | hword
  · exact .inl hplace
  · cases hword with
    | pointer | scalar => exact .inr trivial

end Expression

open Expression

theorem Target.isWholeWord_of_evaluate {target : Target} {text : String} {bits : UInt64} {type : CType}
    (h : target.evaluate text = .ok (.ofBits bits type)) : IsWholeWord (.ofBits bits type) := by
  obtain ⟨_, -, hdenotes⟩ := evaluate_eq_ok_iff.1 h
  exact hdenotes.located.resolve_left Bool.false_ne_true

end MemoryInspector
