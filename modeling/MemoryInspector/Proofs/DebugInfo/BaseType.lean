import MemoryInspector.Hierarchy.Layouts
import MemoryInspector.Proofs.DebugInfo.Resolution
import MemoryInspector.Proofs.DebugInfo.Short
import MemoryInspector.Proofs.Target.Number

/-!
# Base types

The type of a base type entry takes the bytes that the entry says. Numbers of the type have the sign
that the encoding says, unless the name is known for a scalar of that size: the name goes before the
encoding, and a plain `char` has a sign or not on different machines.
-/

namespace MemoryInspector

open Text

namespace Scalar

variable {kind : Scalar} {size : Nat} {signed : Bool}

theorem size_and_sign_of_integer? (h : integer? size signed = some kind) :
    kind.size = size ∧ kind.isSigned = signed := by
  unfold integer? at h
  split at h <;> cases h <;> exact ⟨rfl, rfl⟩

end Scalar

/-- The number that bytes stand for, in two's complement if it has a sign. -/
def numberOf (signed : Bool) (bytes : List UInt8) : ℤ :=
  if signed then (ofLittleEndian bytes : ℤ).bmod (valueCount bytes.length) else ofLittleEndian bytes

namespace Target

variable {target : Target} {address : UInt64} {kind : Scalar} {bytes : List UInt8}

/-- A scalar in memory is the number that its bytes stand for. -/
theorem readInteger_atAddress (h : target.memory.bytes? address kind.size = some bytes) :
    target.readInteger (.atAddress address (.scalar kind)) = .ok (numberOf kind.isSigned bytes) := by
  have hlength : bytes.length = kind.size := target.memory.length_bytes? h
  have hlt : ofLittleEndian bytes < valueCount kind.size := hlength ▸ ofLittleEndian_lt bytes
  have hword : valueCount kind.size ≤ UInt64.size := by cases kind <;> decide
  have hmod : (ofLittleEndian bytes : ℤ) % valueCount kind.size = ofLittleEndian bytes :=
    Int.emod_eq_of_lt (Int.natCast_nonneg _) (by exact_mod_cast hlt)
  rw [readInteger_eq_convert rfl (readBits_atAddress_scalar h),
    UInt64.toNat_ofNat_of_lt' (hlt.trans_le hword), Scalar.convert, numberOf, hlength, hmod]

end Target

namespace DebugInfo

variable {named : NamedUnit} {position : Nat} {entry : Entry} {name : String} {size : UInt64}
  {encoding : Encoding} {kind : Scalar} {signed : Bool}

/-- Whether numbers of the encoding have a sign. Truth values and what is no integer leave it open. -/
def Encoding.sign? : Encoding → Option Bool
  | .signed | .signedChar => some true
  | .unsigned | .unsignedChar => some false
  | .boolean | .other => none

/-- A base type with its name, its size in bytes and its encoding. What is missing is an empty name, no
bytes and an encoding that is not known. -/
structure Entry.IsBaseType (entry : Entry) (name : String) (size : UInt64) (encoding : Encoding) :
    Prop where
  tag_eq : entry.tag = .baseType
  name_eq : entry.name.map (·.getD "") = .ok name
  size_eq : (entry.number .byteSize).map (·.getD 0) = .ok size
  encoding_eq : (entry.number .encoding).map (fun code ↦ (code.map Encoding.ofCode).getD .other) =
    .ok encoding

/-- The name is not known for a scalar of the size with another sign. -/
def NameAgrees (name : String) (size : UInt64) (signed : Bool) : Prop :=
  ∀ known, Scalar.ofCName? name = some known → known.size = size.toNat → known.isSigned = signed

theorem Encoding.size_and_sign_of_scalar? (h : encoding.scalar? size = some kind) :
    kind.size = size.toNat ∧ ∀ signed, encoding.sign? = some signed → kind.isSigned = signed := by
  cases encoding with
  | boolean =>
    change (if size = 1 then some .bool else Scalar.integer? size.toNat false) = some kind at h
    split at h
    · next hone =>
      cases h
      exact ⟨by rw [hone]; rfl, nofun⟩
    · exact ⟨(Scalar.size_and_sign_of_integer? h).1, nofun⟩
  | signedChar =>
    change (if size = 1 then some .char else none) = some kind at h
    split at h
    · next hone =>
      cases h
      refine ⟨by rw [hone]; rfl, ?_⟩
      rintro _ ⟨⟩
      rfl
    · cases h
  | signed | unsigned | unsignedChar =>
    obtain ⟨hsize, hsign⟩ := Scalar.size_and_sign_of_integer? h
    refine ⟨hsize, ?_⟩
    rintro _ ⟨⟩
    exact hsign
  | other => cases h

/-! ## The two sources of a base type -/

/-- The name decides if it is known for a scalar of the size, and else the encoding does. -/
theorem baseType_cases (name : String) (size : UInt64) (encoding : Encoding) :
    (∃ known, Scalar.ofCName? name = some known ∧ known.size = size.toNat ∧
      baseType name size encoding = .scalar known) ∨
    (∀ known, Scalar.ofCName? name = some known → known.size ≠ size.toNat) ∧
      baseType name size encoding =
        ((encoding.scalar? size).map CType.scalar).getD (.array (.scalar .uint8) size) := by
  by_cases h : ∃ known, Scalar.ofCName? name = some known ∧ known.size = size.toNat
  · obtain ⟨known, hname, hsize⟩ := h
    refine .inl ⟨known, hname, hsize, ?_⟩
    rw [baseType, hname, Option.filter_some, if_pos (decide_eq_true hsize)]
  · have hunknown : ∀ known, Scalar.ofCName? name = some known → known.size ≠ size.toNat :=
      fun known hname hsize ↦ h ⟨known, hname, hsize⟩
    have hfilter : (Scalar.ofCName? name).filter (fun known ↦ known.size = size.toNat) = none := by
      rw [Option.filter_eq_none_iff]
      simpa using hunknown
    refine .inr ⟨hunknown, ?_⟩
    cases hscalar : encoding.scalar? size with
    | none | some => simp only [baseType, hfilter, hscalar, Option.map, Option.getD]

theorem byteSize_baseType (types : Registry) (name : String) (size : UInt64) (encoding : Encoding) :
    types.byteSize (baseType name size encoding) = .ok size.toNat := by
  rcases baseType_cases name size encoding with ⟨known, -, hsize, htype⟩ | ⟨-, htype⟩
  · rw [htype, Registry.byteSize, hsize]
  · rw [htype]
    cases hscalar : encoding.scalar? size with
    | some kind => exact congrArg Except.ok (Encoding.size_and_sign_of_scalar? hscalar).1
    | none => exact types.byteSize_bytes size

/-- The encoding gives the sign unless a name goes before it that is known for another one. -/
theorem isSigned_baseType_iff (htype : baseType name size encoding = .scalar kind)
    (hsign : encoding.sign? = some signed) : kind.isSigned = signed ↔ NameAgrees name size signed := by
  rcases baseType_cases name size encoding with ⟨known, hname, hsize, hknown⟩ | ⟨hunknown, hscalar⟩
  · obtain rfl : known = kind := CType.scalar.inj (hknown.symm.trans htype)
    refine ⟨?_, fun hagrees ↦ hagrees known hname hsize⟩
    rintro hsigned _ hname' -
    cases hname.symm.trans hname'
    exact hsigned
  · refine iff_of_true ?_ fun known hname hsize ↦ absurd hsize (hunknown known hname)
    rw [htype] at hscalar
    cases hfound : encoding.scalar? size with
    | some found =>
      rw [hfound] at hscalar
      cases hscalar
      exact (Encoding.size_and_sign_of_scalar? hfound).2 signed hsign
    | none =>
      rw [hfound] at hscalar
      cases hscalar

/-! ## Entries of base types -/

theorem Entry.IsBaseType.resolves (h : entry.IsBaseType name size encoding)
    (hentry : named.unit.entryAt position = .ok entry) :
    named.Resolves position (baseType name size encoding) := by
  obtain ⟨name?, hname, rfl⟩ := Except.map_eq_ok_iff.1 h.name_eq
  obtain ⟨size?, hsize, rfl⟩ := Except.map_eq_ok_iff.1 h.size_eq
  obtain ⟨code?, hcode, rfl⟩ := Except.map_eq_ok_iff.1 h.encoding_eq
  have htarget : entry.target? = none := by
    rw [Entry.target?, h.tag_eq]
    rfl
  exact .alone hentry htarget (NamedUnit.entryType_base h.tag_eq hname hsize hcode _)

/-- At the position of a base type there is a type of its size. If it is a scalar and the encoding says
whether numbers have a sign, then they have the same sign as scalars, except exactly if the name is
known for a scalar of the size with the other one; and where they have it, every number in memory is
read as its bytes say. -/
theorem typeAt_baseType_size_and_sign_iff (hentry : named.unit.entryAt position = .ok entry)
    (hbase : entry.IsBaseType name size encoding) :
    named.Yields (named.typeAt position) (baseType name size encoding) ∧
    (∀ types : Registry, types.byteSize (baseType name size encoding) = .ok size.toNat) ∧
    ∀ kind signed, baseType name size encoding = .scalar kind → encoding.sign? = some signed →
      (kind.isSigned = signed ↔ NameAgrees name size signed) ∧
      (NameAgrees name size signed → ∀ (target : Target) address bytes,
        target.memory.bytes? address size.toNat = some bytes →
          target.readInteger (.atAddress address (.scalar kind)) = .ok (numberOf signed bytes)) := by
  refine ⟨NamedUnit.yields_typeAt (hbase.resolves hentry),
    fun types ↦ byteSize_baseType types name size encoding, ?_⟩
  intro kind signed htype hsign
  have hiff := isSigned_baseType_iff htype hsign
  refine ⟨hiff, ?_⟩
  intro hagrees target address bytes hbytes
  have hsize : kind.size = size.toNat := by
    have hbyteSize := byteSize_baseType target.types name size encoding
    rw [htype] at hbyteSize
    exact Except.ok.inj hbyteSize
  rw [← hsize] at hbytes
  rw [Target.readInteger_atAddress hbytes, hiff.2 hagrees]

namespace Characters

/-! ## A machine whose characters have no sign -/

def forest : Forest :=
  .cons Short.root (.cons (Short.base 1 "char" 1 8) .nil <|
    .cons (Short.base 2 "long unsigned int" 8 7) .nil .nil) .nil

def namedUnit : NamedUnit := ⟨forest.unit 4, 0, ∅⟩

/-- A byte with its highest bit, at two places. -/
def target : Target where
  memory := (Snapshot.ofBytes 0x1000 #[0xC8, 0, 0, 0, 0, 0, 0, 0xC8]).memory
  types := Hierarchy.types
  symbols := ∅
  symbolTypes := ∅

end Characters

theorem typeAt_baseType_size_and_sign_iff_long :
    Characters.namedUnit.unit.entryAt 2 = .ok (Short.base 2 "long unsigned int" 8 7) ∧
    (Short.base 2 "long unsigned int" 8 7).IsBaseType "long unsigned int" 8 .unsigned ∧
    Characters.namedUnit.Yields (Characters.namedUnit.typeAt 2) (.scalar .uint64) ∧
    Characters.target.readInteger (.atAddress 0x1000 (.scalar .uint64)) =
      .ok (0xC8000000000000C8 : ℤ) := by
  have hentry : Characters.namedUnit.unit.entryAt 2 = .ok (Short.base 2 "long unsigned int" 8 7) := rfl
  have hbase : (Short.base 2 "long unsigned int" 8 7).IsBaseType "long unsigned int" 8 .unsigned :=
    ⟨rfl, rfl, rfl, rfl⟩
  have htype : baseType "long unsigned int" 8 .unsigned = .scalar .uint64 := by decide
  obtain ⟨hyields, -, hscalar⟩ := typeAt_baseType_size_and_sign_iff hentry hbase
  obtain ⟨hiff, hnumber⟩ := hscalar .uint64 false htype rfl
  refine ⟨hentry, hbase, htype ▸ hyields, ?_⟩
  exact hnumber (hiff.1 rfl) Characters.target 0x1000 [0xC8, 0, 0, 0, 0, 0, 0, 0xC8] (by decide +kernel)

/-- The byte 200 without a sign is read as the number -56. -/
theorem typeAt_baseType_ne_sign_char :
    Characters.namedUnit.unit.entryAt 1 = .ok (Short.base 1 "char" 1 8) ∧
    (Short.base 1 "char" 1 8).IsBaseType "char" 1 .unsignedChar ∧
    Encoding.sign? .unsignedChar = some false ∧
    Characters.namedUnit.Yields (Characters.namedUnit.typeAt 1) (.scalar .char) ∧
    Scalar.isSigned .char = true ∧ numberOf false [0xC8] = 200 ∧
    Characters.target.memory.bytes? 0x1000 1 = some [0xC8] ∧
    Characters.target.readInteger (.atAddress 0x1000 (.scalar .char)) = .ok (-56) := by
  have hbase : (Short.base 1 "char" 1 8).IsBaseType "char" 1 .unsignedChar := ⟨rfl, rfl, rfl, rfl⟩
  have htype : baseType "char" 1 .unsignedChar = .scalar .char := by decide
  have hyields : Characters.namedUnit.Yields (Characters.namedUnit.typeAt 1) (.scalar .char) :=
    NamedUnit.yields_typeAt (htype ▸ hbase.resolves rfl)
  refine ⟨rfl, hbase, rfl, hyields, rfl, by decide, ?_⟩
  decide +kernel

end DebugInfo

end MemoryInspector
