import MemoryInspector.Proofs.Registry

/-!
# Sizes without bounds

A type is given the size that it has by the arithmetic of natural numbers, or none. None of the arrays
that it is nested of may reach 2 ^ 64 bytes, whatever the lengths around it are, so that no product
wraps, and the limit for reading in one piece is one on the true size.
-/

namespace MemoryInspector

namespace CType

/-- The record that values of the type are made of, alone or as the elements of arrays. -/
def embedded? : CType → Option String
  | record name => some name
  | array element _ => element.embedded?
  | _ => none

/-- The type, and below it the elements of arrays down to what is no array. -/
def layers : CType → List CType
  | array element length => array element length :: element.layers
  | type => [type]

end CType

namespace Registry

/-- The size of the record, if there is one. -/
def recordSize (types : Registry) (name : String) : ℕ :=
  ((types.record? name).map (·.size.toNat)).getD 0

/-- The size of a type in bytes, however large. -/
def exactSize (types : Registry) : CType → ℕ
  | .void => 1
  | .scalar kind => kind.size
  | .pointer _ => CType.pointerSize
  | .array element length => types.exactSize element * length.toNat
  | .record name => types.recordSize name

/-- The type has the size, its record is known, and none of its layers is too large for an address. -/
structure Measures (types : Registry) (type : CType) (size : ℕ) : Prop where
  exactSize_eq : types.exactSize type = size
  exists_layout : ∀ name ∈ type.embedded?, ∃ layout, types.record? name = some layout
  layer_lt : ∀ layer ∈ type.layers, types.exactSize layer < UInt64.size

variable {types : Registry} {type element : CType} {name : String} {layout : RecordLayout}
  {length : UInt64} {size : ℕ}

theorem recordSize_eq (h : types.record? name = some layout) :
    types.recordSize name = layout.size.toNat := by
  unfold recordSize
  rw [h]
  rfl

theorem measures_array_iff : types.Measures (.array element length) size ↔ ∃ elementSize,
    types.Measures element elementSize ∧ elementSize * length.toNat < UInt64.size ∧
      size = elementSize * length.toNat := by
  constructor
  · rintro ⟨hsize, hlayout, hlayers⟩
    obtain ⟨hwhole, hbelow⟩ := List.forall_mem_cons.1 hlayers
    exact ⟨_, ⟨rfl, hlayout, hbelow⟩, hwhole, hsize.symm⟩
  · rintro ⟨_, ⟨rfl, hlayout, hbelow⟩, hwhole, rfl⟩
    exact ⟨rfl, hlayout, List.forall_mem_cons.2 ⟨hwhole, hbelow⟩⟩

theorem measures_record_iff : types.Measures (.record name) size ↔
    ∃ layout, types.record? name = some layout ∧ size = layout.size.toNat := by
  constructor
  · rintro ⟨rfl, hlayout, -⟩
    obtain ⟨layout, hlayout⟩ := hlayout name rfl
    exact ⟨layout, hlayout, recordSize_eq hlayout⟩
  · rintro ⟨layout, hlayout, rfl⟩
    refine ⟨recordSize_eq hlayout, ?_, List.forall_mem_singleton.2 ?_⟩
    · rintro _ ⟨⟩
      exact ⟨layout, hlayout⟩
    · rw [exactSize, recordSize_eq hlayout]
      exact layout.size.toNat_lt

/-- What is no array and no record is small. -/
theorem byteSize_eq_ok_iff_of_lt (hsize : types.byteSize type = .ok (types.exactSize type))
    (hrecord : type.embedded? = none) (hlayers : type.layers = [type])
    (hlt : types.exactSize type < UInt64.size) :
    types.byteSize type = .ok size ↔ types.Measures type size := by
  rw [hsize, Except.ok.injEq]
  constructor
  · rintro rfl
    exact ⟨rfl, by simp [hrecord], hlayers ▸ List.forall_mem_singleton.2 hlt⟩
  · exact Measures.exactSize_eq

theorem byteSize_eq_ok_iff_measures : types.byteSize type = .ok size ↔ types.Measures type size := by
  induction type generalizing size with
  | void => exact byteSize_eq_ok_iff_of_lt rfl rfl rfl (by decide : 1 < UInt64.size)
  | scalar kind =>
    have hlt : kind.size < UInt64.size := by cases kind <;> decide
    exact byteSize_eq_ok_iff_of_lt rfl rfl rfl hlt
  | pointer pointee =>
    exact byteSize_eq_ok_iff_of_lt rfl rfl rfl (by decide : CType.pointerSize < UInt64.size)
  | array element length ih =>
    simp only [byteSize_array_eq_ok_iff, measures_array_iff, ih]
  | record name =>
    rw [byteSize, Except.bind_eq_ok_iff, measures_record_iff]
    simp only [record_eq_ok_iff, Except.ok.injEq, @eq_comm _ size]

/-- A type has no other size than its exact one, of up to 65536 bytes where it is read in one piece. -/
theorem sizes_eq_ok_iff_measures (types : Registry) (type : CType) (size : ℕ) :
    (types.byteSize type = .ok size ↔ types.Measures type size) ∧
      (types.valueSize type = .ok size ↔ types.Measures type size ∧ size ≤ 65536) := by
  refine ⟨byteSize_eq_ok_iff_measures, ?_⟩
  rw [valueSize_eq_ok_iff, byteSize_eq_ok_iff_measures, maxValueSize]

/-- Rows of 2 ^ 32 bytes, and as many of them, have no size though the product is zero in 64 bits. -/
example : (empty.byteSize (.array (.array (.scalar .char) 0x100000000) 0x100000000)).toOption = none := by
  decide

end Registry

end MemoryInspector
