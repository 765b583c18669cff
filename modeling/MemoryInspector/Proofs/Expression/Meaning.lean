import Std.Data.TreeMap.Lemmas
import MemoryInspector.Expression.Evaluation
import MemoryInspector.Proofs.Expression.Reading
import MemoryInspector.Proofs.Target.Access

/-!
# The meaning of terms

The value of a term is given by rules on its parts, one for each way in which an operator applies
to a value. Evaluation succeeds exactly with the value that the rules give. What evaluation reads
of the target is the bits of the pointers and scalars that the rules name.
-/

namespace MemoryInspector.Expression

/-- The bits that a cast keeps: those of a scalar or pointer, or the address that an array decays
to. -/
inductive CastBits (target : Target) : Value → UInt64 → Prop where
  | read {value : Value} {bits : UInt64} : target.readBits value = .ok bits → CastBits target value bits
  | decay {address length : UInt64} {element : CType} :
      CastBits target (.atAddress address (.array element length)) address

/-- Where the elements of a pointer or an array begin, and their type. -/
inductive ElementsAt (target : Target) : Value → UInt64 → CType → Prop where
  | pointer {value : Value} {address : UInt64} {element : CType} : value.type = .pointer element →
      target.readBits value = .ok address → ElementsAt target value address element
  | array {address length : UInt64} {element : CType} :
      ElementsAt target (.atAddress address (.array element length)) address element

/-- The values that terms stand for in a target. -/
inductive Term.Denotes (target : Target) : Term → Value → Prop where
  | integer (value : UInt64) : Denotes target (.integer value) (.ofBits value (.scalar .uint64))
  | symbol {name : String} {address : UInt64} : target.symbols[name]? = some address →
      Denotes target (.symbol name) (.atAddress address (target.symbolTypes[name]?.getD .void))
  | member {term : Term} {name record : String} {address : UInt64} {layout : RecordLayout} {field : Field} :
      Denotes target term (.atAddress address (.record record)) →
      target.types.record? record = some layout → layout.field? name = some field →
      Denotes target (.member term name) (.atAddress (address + field.offset) field.type)
  | arrow {term : Term} {name record : String} {pointer : Value} {address : UInt64}
      {layout : RecordLayout} {field : Field} :
      Denotes target term pointer → pointer.type = .pointer (.record record) →
      target.readBits pointer = .ok address →
      target.types.record? record = some layout → layout.field? name = some field →
      Denotes target (.arrow term name) (.atAddress (address + field.offset) field.type)
  | subscript {term : Term} {value : Value} {index address : UInt64} {element : CType} {size : Nat} :
      Denotes target term value → ElementsAt target value address element →
      target.types.byteSize element = .ok size →
      Denotes target (.subscript term index) (.atAddress (address + index * UInt64.ofNat size) element)
  | contentsPointer {term : Term} {pointer : Value} {pointee : CType} {address : UInt64} :
      Denotes target term pointer → pointer.type = .pointer pointee →
      target.readBits pointer = .ok address →
      Denotes target (.contents term) (.atAddress address pointee)
  | contentsArray {term : Term} {address length : UInt64} {element : CType} {size : Nat} :
      Denotes target term (.atAddress address (.array element length)) →
      target.types.byteSize element = .ok size →
      Denotes target (.contents term) (.atAddress address element)
  | addressOf {term : Term} {address : UInt64} {type : CType} :
      Denotes target term (.atAddress address type) →
      Denotes target (.addressOf term) (.ofBits address (.pointer type))
  | castPointer {term : Term} {value : Value} {pointee : CType} {bits : UInt64} :
      Denotes target term value → CastBits target value bits →
      Denotes target (.cast (.pointer pointee) term) (.ofBits bits (.pointer pointee))
  | castScalar {term : Term} {value : Value} {kind : Scalar} {bits : UInt64} :
      Denotes target term value → CastBits target value bits →
      Denotes target (.cast (.scalar kind) term)
        (.ofBits (UInt64.ofNat (bits.toNat % Text.valueCount kind.size)) (.scalar kind))

variable {target : Target} {text : String} {value result : Value}

/-! ## Operators -/

theorem memberOf_eq_ok_iff {name : String} : memberOf target text value name = .ok result ↔
    ∃ record address layout field, value = .atAddress address (.record record) ∧
      target.types.record? record = some layout ∧ layout.field? name = some field ∧
      result = .atAddress (address + field.offset) field.type := by
  rw [← Target.field_eq_ok_iff]
  unfold memberOf
  split
  · next record htype =>
    simp only [Except.bind_eq_ok_iff, Registry.record_eq_ok_iff, fail]
    constructor
    · intro h
      rcases h with ⟨layout, -, h⟩
      split at h
      · exact h
      · cases h
    · intro h
      obtain ⟨record', address, layout, field, rfl, hlayout, hfield, -⟩ := Target.field_eq_ok_iff.1 h
      cases htype
      exact ⟨layout, hlayout, by simpa [hfield] using h⟩
  · next htype =>
    simp only [fail, reduceCtorEq, false_iff]
    intro h
    obtain ⟨record, address, layout, field, rfl, -⟩ := Target.field_eq_ok_iff.1 h
    exact htype record rfl

theorem elementAt_eq_ok_iff {index : UInt64} : elementAt target text value index = .ok result ↔
    ∃ address element size, ElementsAt target value address element ∧
      target.types.byteSize element = .ok size ∧
      result = .atAddress (address + index * UInt64.ofNat size) element := by
  constructor
  · intro h
    unfold elementAt at h
    split at h
    · next element htype =>
      simp only [Except.ok_bind, Except.bind_eq_ok_iff, Except.ok.injEq] at h
      obtain ⟨address, hread, size, hsize, rfl⟩ := h
      exact ⟨address, element, size, .pointer htype hread, hsize, rfl⟩
    · next element length address htype haddress =>
      simp only [Except.ok_bind, Except.bind_eq_ok_iff, Except.ok.injEq] at h
      obtain ⟨size, hsize, rfl⟩ := h
      obtain rfl := Value.eq_atAddress_iff.2 ⟨haddress, htype⟩
      exact ⟨address, element, size, .array, hsize, rfl⟩
    · cases h
    · cases h
  · intro h
    rcases h with ⟨address, element, size, hstart, hsize, rfl⟩
    cases hstart with
    | pointer htype hread => simp [elementAt, htype, hread, hsize]
    | array => simp [elementAt, hsize]

theorem contentsOf_eq_ok_iff : contentsOf target text value = .ok result ↔
    (∃ pointee address, value.type = .pointer pointee ∧ target.readBits value = .ok address ∧
      result = .atAddress address pointee) ∨
    ∃ address element length size, value = .atAddress address (.array element length) ∧
      target.types.byteSize element = .ok size ∧ result = .atAddress address element := by
  unfold contentsOf
  split
  · next pointee htype =>
    rw [Target.dereference_eq_ok_iff, or_iff_left]
    intro h
    rcases h with ⟨address, element, length, size, rfl, -⟩
    cases htype
  · next element length htype =>
    rw [elementAt_eq_ok_iff, or_iff_right]
    · constructor
      · intro h
        rcases h with ⟨address, element', size, hstart, hsize, rfl⟩
        cases hstart with
        | pointer hpointer => cases htype.symm.trans hpointer
        | array => exact ⟨address, _, _, size, rfl, hsize, by simp⟩
      · intro h
        rcases h with ⟨address, element', length', size, rfl, hsize, rfl⟩
        exact ⟨address, element', size, .array, hsize, by simp⟩
    · intro h
      rcases h with ⟨pointee, address, hpointer, -⟩
      cases htype.symm.trans hpointer
  · next hpointer harray =>
    simp only [fail, reduceCtorEq, false_iff]
    intro h
    rcases h with ⟨pointee, address, htype, -⟩ | ⟨address, element, length, size, rfl, -⟩
    · exact hpointer _ htype
    · exact harray _ _ rfl

theorem arrowMember_eq_ok_iff {name : String} : arrowMember target text value name = .ok result ↔
    ∃ record address layout field, value.type = .pointer (.record record) ∧
      target.readBits value = .ok address ∧ target.types.record? record = some layout ∧
      layout.field? name = some field ∧ result = .atAddress (address + field.offset) field.type := by
  unfold arrowMember
  split
  · simp only [Except.bind_eq_ok_iff, Target.dereference_eq_ok_iff, memberOf_eq_ok_iff]
    constructor
    · intro h
      rcases h with ⟨-, ⟨pointee, address, htype, hread, rfl⟩, record, address', layout, field,
        hrecord, hlayout, hfield, rfl⟩
      cases hrecord
      exact ⟨record, address, layout, field, htype, hread, hlayout, hfield, rfl⟩
    · intro h
      rcases h with ⟨record, address, layout, field, htype, hread, hlayout, hfield, rfl⟩
      exact ⟨_, ⟨_, address, htype, hread, rfl⟩, record, address, layout, field, rfl, hlayout, hfield, rfl⟩
  · next hpointer =>
    simp only [fail, reduceCtorEq, false_iff]
    intro h
    rcases h with ⟨record, address, layout, field, htype, -⟩
    exact hpointer (by simp [htype, CType.isPointer])

theorem addressOf_eq_ok_iff : addressOf text value = .ok result ↔ ∃ address type,
    value = .atAddress address type ∧ result = .ofBits address (.pointer type) := by
  unfold addressOf
  split
  · next address haddress =>
    obtain ⟨type, rfl⟩ : ∃ type, value = .atAddress address type :=
      ⟨value.type, Value.address?_eq_some_iff.1 haddress⟩
    constructor
    · intro h
      cases h
      exact ⟨address, type, rfl, rfl⟩
    · intro h
      rcases h with ⟨address', type', ⟨⟩, rfl⟩
      rfl
  · next hnone =>
    simp only [fail, reduceCtorEq, false_iff]
    intro h
    rcases h with ⟨address, type, rfl, -⟩
    cases hnone

/-- Eight bytes hold every word, so truncation is reduction for all scalars. -/
theorem truncateTo_scalar (kind : Scalar) (bits : UInt64) :
    truncateTo (.scalar kind) bits = UInt64.ofNat (bits.toNat % Text.valueCount kind.size) := by
  rw [truncateTo]
  split
  · rfl
  · next hsize =>
    have height : kind.size = 8 := by cases kind <;> simp_all [Scalar.size]
    have hbits : bits.toNat < Text.valueCount 8 := bits.toNat_lt
    rw [height, Nat.mod_eq_of_lt hbits, UInt64.ofNat_toNat]

/-- A cast to a scalar or pointer succeeds with the bits that it keeps. -/
theorem castTo_word_eq_ok_iff {type : CType}
    (htype : (∃ pointee, type = .pointer pointee) ∨ ∃ kind, type = .scalar kind) :
    castTo target text type value = .ok result ↔
      ∃ bits, CastBits target value bits ∧ result = .ofBits (truncateTo type bits) type := by
  constructor
  · intro h
    rcases htype with ⟨pointee, rfl⟩ | ⟨kind, rfl⟩
    all_goals
      simp only [castTo] at h
      split at h
      · obtain ⟨bits, hread, ⟨⟩⟩ := Except.bind_eq_ok_iff.1 h
        exact ⟨bits, .read hread, rfl⟩
      · obtain ⟨bits, hread, ⟨⟩⟩ := Except.bind_eq_ok_iff.1 h
        exact ⟨bits, .read hread, rfl⟩
      · next element length address harray haddress =>
        cases h
        obtain rfl := Value.eq_atAddress_iff.2 ⟨haddress, harray⟩
        exact ⟨address, .decay, rfl⟩
      · cases h
  · intro h
    rcases h with ⟨bits, hkept, rfl⟩
    cases hkept with
    | read hread =>
      rcases htype with ⟨pointee, rfl⟩ | ⟨kind, rfl⟩ <;>
        rcases Target.type_of_readBits hread with ⟨kind', hvalue⟩ | ⟨pointee', hvalue⟩ <;>
        simp [castTo, hvalue, hread]
    | decay =>
      rcases htype with ⟨pointee, rfl⟩ | ⟨kind, rfl⟩ <;> simp [castTo]

theorem castTo_eq_ok_iff {type : CType} : castTo target text type value = .ok result ↔
    ∃ bits, CastBits target value bits ∧
      ((∃ pointee, type = .pointer pointee ∧ result = .ofBits bits (.pointer pointee)) ∨
        ∃ kind, type = .scalar kind ∧
          result = .ofBits (UInt64.ofNat (bits.toNat % Text.valueCount kind.size)) (.scalar kind)) := by
  cases type with
  | pointer pointee => simp [castTo_word_eq_ok_iff, truncateTo]
  | scalar kind => simp [castTo_word_eq_ok_iff, truncateTo_scalar]
  | void | array | record => simp [castTo, fail]

/-! ## Terms -/

/-- Evaluation follows the rules of meaning, and fails where no rule applies. -/
theorem Term.eval_eq_ok_iff (text : String) (term : Term) :
    term.eval target text = .ok result ↔ Denotes target term result := by
  induction term generalizing result with
  | integer number =>
    constructor
    · intro h
      cases h
      exact .integer number
    · intro h
      cases h
      rfl
  | symbol name =>
    rw [eval]
    constructor
    · intro h
      split at h
      · next value hvalue =>
        obtain ⟨address, haddress, rfl⟩ := Target.symbol?_eq_some_iff.1 hvalue
        cases h
        exact .symbol haddress
      · cases h
    · intro h
      cases h with
      | symbol haddress => rw [Target.symbol?_eq_some_iff.2 ⟨_, haddress, rfl⟩]
  | member term name ih =>
    simp only [eval, Except.bind_eq_ok_iff, ih, memberOf_eq_ok_iff]
    constructor
    · intro h
      rcases h with ⟨-, hterm, record, address, layout, field, rfl, hlayout, hfield, rfl⟩
      exact .member hterm hlayout hfield
    · intro h
      cases h with
      | member hterm hlayout hfield => exact ⟨_, hterm, _, _, _, _, rfl, hlayout, hfield, rfl⟩
  | arrow term name ih =>
    simp only [eval, Except.bind_eq_ok_iff, ih, arrowMember_eq_ok_iff]
    constructor
    · intro h
      rcases h with ⟨pointer, hterm, record, address, layout, field, htype, hread, hlayout, hfield,
        rfl⟩
      exact .arrow hterm htype hread hlayout hfield
    · intro h
      cases h with
      | arrow hterm htype hread hlayout hfield =>
        exact ⟨_, hterm, _, _, _, _, htype, hread, hlayout, hfield, rfl⟩
  | subscript term index ih =>
    simp only [eval, Except.bind_eq_ok_iff, ih, elementAt_eq_ok_iff]
    constructor
    · intro h
      rcases h with ⟨value, hterm, address, element, size, hstart, hsize, rfl⟩
      exact .subscript hterm hstart hsize
    · intro h
      cases h with
      | subscript hterm hstart hsize => exact ⟨_, hterm, _, _, _, hstart, hsize, rfl⟩
  | contents term ih =>
    simp only [eval, Except.bind_eq_ok_iff, ih, contentsOf_eq_ok_iff]
    constructor
    · intro h
      rcases h with ⟨value, hterm, ⟨pointee, address, htype, hread, rfl⟩ | ⟨address, element,
        length, size, rfl, hsize, rfl⟩⟩
      · exact .contentsPointer hterm htype hread
      · exact .contentsArray hterm hsize
    · intro h
      cases h with
      | contentsPointer hterm htype hread => exact ⟨_, hterm, .inl ⟨_, _, htype, hread, rfl⟩⟩
      | contentsArray hterm hsize => exact ⟨_, hterm, .inr ⟨_, _, _, _, rfl, hsize, rfl⟩⟩
  | addressOf term ih =>
    simp only [eval, Except.bind_eq_ok_iff, ih, addressOf_eq_ok_iff]
    constructor
    · intro h
      rcases h with ⟨-, hterm, address, type, rfl, rfl⟩
      exact .addressOf hterm
    · intro h
      cases h with
      | addressOf hterm => exact ⟨_, hterm, _, _, rfl, rfl⟩
  | cast type term ih =>
    simp only [eval, Except.bind_eq_ok_iff, ih, castTo_eq_ok_iff]
    constructor
    · intro h
      rcases h with ⟨value, hterm, bits, hkept, ⟨pointee, rfl, rfl⟩ | ⟨kind, rfl, rfl⟩⟩
      · exact .castPointer hterm hkept
      · exact .castScalar hterm hkept
    · intro h
      cases h with
      | castPointer hterm hkept => exact ⟨_, hterm, _, hkept, .inl ⟨_, rfl, rfl⟩⟩
      | castScalar hterm hkept => exact ⟨_, hterm, _, hkept, .inr ⟨_, rfl, rfl⟩⟩
  | unknownType name | fault reason =>
    constructor
    · intro h
      cases h
    · intro h
      cases h
  | faultAfter term reason ih =>
    simp only [eval, Except.bind_eq_ok_iff, fail]
    constructor
    · intro h
      rcases h with ⟨value, -, ⟨⟩⟩
    · intro h
      cases h

/-- A term with a value has no fault in it. -/
theorem Term.Denotes.faultless {term : Term} (h : Denotes target term result) : term.Faultless := by
  induction h <;> first | assumption | trivial

/-- The symbols of a term with a value are known. -/
theorem Term.Denotes.mem_symbols {term : Term} (h : Denotes target term result) :
    ∀ name ∈ term.symbolNames, name ∈ target.symbols := by
  induction h with
  | integer => simp [symbolNames]
  | symbol haddress =>
    intro name hname
    rw [symbolNames, List.mem_singleton] at hname
    subst hname
    exact Std.TreeMap.mem_iff_isSome_getElem?.2 (by simp [haddress])
  | member _ _ _ ih | arrow _ _ _ _ _ ih | subscript _ _ _ ih | contentsPointer _ _ _ ih
  | contentsArray _ _ ih | addressOf _ ih | castPointer _ _ ih | castScalar _ _ ih => exact ih

end MemoryInspector.Expression
