import Mathlib.Data.Int.ModEq
import MemoryInspector.Proofs.Target.Reading

/-!
# Numbers of scalars

The number of a scalar is read from its bits, which are extended by zeros and then read in two's
complement if the type has a sign. A number of the type comes back from its bytes in memory and from
any word that ends with its bits.
-/

namespace MemoryInspector

open Text

/-! ## Bytes -/

namespace Text

theorem take_toLittleEndian {width count : ℕ} (h : count ≤ width) (n : ℕ) :
    (toLittleEndian width n).take count = toLittleEndian count n := by
  induction count generalizing width n with
  | zero => rfl
  | succ count ih =>
    cases width with
    | zero => exact absurd h (Nat.not_succ_le_zero count)
    | succ width =>
      rw [toLittleEndian, toLittleEndian, List.take_succ_cons, ih (Nat.le_of_succ_le_succ h)]

theorem valueCount_eq (width : ℕ) : valueCount width = 2 ^ (8 * width) := by
  rw [pow_mul]
  rfl

/-- The bytes of a bit vector, least significant first. -/
def bytesOf {width : ℕ} (bits : BitVec (8 * width)) : List UInt8 :=
  (List.range width).map fun index ↦ .ofBitVec (bits.extractLsb' (8 * index) 8)

theorem toLittleEndian_eq_map (width n : ℕ) :
    toLittleEndian width n = (List.range width).map fun index ↦ UInt8.ofNat (n / 256 ^ index) := by
  induction width generalizing n with
  | zero => rfl
  | succ width ih =>
    rw [toLittleEndian, ih, List.range_succ_eq_map, List.map_cons, List.map_map, pow_zero, Nat.div_one]
    simp only [Function.comp_def, Nat.succ_eq_add_one, Nat.div_div_eq_div_mul, pow_succ']

theorem bytesOf_eq_toLittleEndian {width : ℕ} (bits : BitVec (8 * width)) :
    bytesOf bits = toLittleEndian width bits.toNat := by
  rw [bytesOf, toLittleEndian_eq_map]
  apply List.map_congr_left
  intro index _
  rw [← UInt8.toNat_inj, UInt8.toNat_ofBitVec, BitVec.extractLsb'_toNat, Nat.shiftRight_eq_div_pow,
    pow_mul, UInt8.toNat_ofNat']
  rfl

theorem ofLittleEndian_bytesOf {width : ℕ} (bits : BitVec (8 * width)) :
    ofLittleEndian (bytesOf bits) = bits.toNat := by
  rw [bytesOf_eq_toLittleEndian, ofLittleEndian_toLittleEndian, valueCount_eq]
  exact Nat.mod_eq_of_lt bits.isLt

end Text

theorem Scalar.size_le_eight (kind : Scalar) : kind.size ≤ 8 := by cases kind <;> decide

/-! ## Sign extension -/

namespace Target

theorem mul_bmod_mul (number : ℤ) (count : ℕ) {factor : ℕ} (h : 0 < factor) :
    (number * factor).bmod (count * factor) = number.bmod count * factor := by
  have hmod : number * factor % (count * factor : ℕ) = number % count * factor := by
    rw [Nat.cast_mul, mul_comm, mul_comm (count : ℤ),
      Int.mul_emod_mul_of_pos _ _ (by exact_mod_cast h), mul_comm]
  have hhalf : number % count * factor < ((count * factor : ℕ) + 1) / 2 ↔
      number % count < (count + 1) / 2 := by
    calc number % count * factor < ((count * factor : ℕ) + 1) / 2
        ↔ 2 * (number % count) * factor < count * factor := by rw [Nat.cast_mul, mul_assoc 2]; omega
      _ ↔ 2 * (number % count) < count := Int.mul_lt_mul_right (by exact_mod_cast h)
      _ ↔ number % count < (count + 1) / 2 := by omega
  rw [Int.bmod, Int.bmod, hmod]
  by_cases hlt : number % count < (count + 1) / 2
  · rw [if_pos hlt, if_pos (hhalf.2 hlt)]
  · rw [if_neg hlt, if_neg (mt hhalf.1 hlt), Nat.cast_mul, sub_mul]

/-- Shifting to the top and back extends the sign: the result is the number in two's complement that is
congruent to the word. -/
theorem signedValue_eq_bmod {size : ℕ} (h : size ≤ 8) (bits : UInt64) :
    signedValue size bits = Int.bmod bits.toNat (valueCount size) := by
  have hword : 2 ^ 64 = valueCount size * 2 ^ (64 - 8 * size) := by
    rw [valueCount_eq, ← pow_add, Nat.add_sub_of_le (by omega)]
  rw [signedValue, BitVec.toInt_sshiftRight, BitVec.toInt_shiftLeft, Int.shiftRight_eq_div_pow,
    Nat.shiftLeft_eq, hword, Nat.cast_mul, mul_bmod_mul _ _ (Nat.two_pow_pos _)]
  exact Int.mul_ediv_cancel _ (Int.natCast_ne_zero.2 (Nat.two_pow_pos _).ne')

end Target

/-! ## Conversions -/

namespace Scalar

/-- The number as one of the scalar type: reduced modulo 2 ^ (8 * size), then read in two's
complement if the type has a sign. A truth value counts as a byte without a sign. -/
def convert (kind : Scalar) (number : ℤ) : ℤ :=
  if kind.isSigned then number.bmod (valueCount kind.size) else number % valueCount kind.size

variable {source kind : Scalar} {first second number : ℤ}

theorem valueCount_size_dvd_iff :
    valueCount kind.size ∣ valueCount source.size ↔ kind.size ≤ source.size :=
  Nat.pow_dvd_pow_iff_le_right (by decide)

theorem convert_eq_convert_iff :
    kind.convert first = kind.convert second ↔ first ≡ second [ZMOD valueCount kind.size] := by
  unfold convert Int.ModEq
  split
  · constructor
    · intro h
      rw [← Int.bmod_emod, h, Int.bmod_emod]
    · intro h
      rw [← Int.emod_bmod, h, Int.emod_bmod]
  · rfl

/-- The numbers of the type. -/
def InRange (kind : Scalar) (number : ℤ) : Prop :=
  if kind.isSigned then -2 ^ (8 * kind.size - 1) ≤ number ∧ number < 2 ^ (8 * kind.size - 1)
  else 0 ≤ number ∧ number < 2 ^ (8 * kind.size)

instance : Decidable (kind.InRange number) :=
  inferInstanceAs (Decidable (if kind.isSigned then _ else _))

theorem convert_of_inRange (h : kind.InRange number) : kind.convert number = number := by
  have hcount : (valueCount kind.size : ℤ) = 2 ^ (8 * kind.size) := by
    rw [valueCount_eq, Nat.cast_pow, Nat.cast_ofNat]
  have hhalf : (2 : ℤ) ^ (8 * kind.size) = 2 ^ (8 * kind.size - 1) * 2 := by
    rw [← pow_succ, Nat.sub_add_cancel (by cases kind <;> decide)]
  unfold InRange at h
  unfold convert
  split at h
  · next hsigned =>
    rw [if_pos hsigned]
    -- The bounds are linear in the half.
    apply Int.bmod_eq_of_le_mul_two
    · omega
    · omega
  · next hunsigned =>
    rw [if_neg hunsigned, hcount]
    exact Int.emod_eq_of_lt h.1 h.2

/-- A number of the type itself differs from its bits exactly if it is negative. -/
theorem convert_natCast_of_lt {bits : ℕ} (h : bits < valueCount kind.size) :
    (0 ≤ kind.convert bits ∧ kind.convert bits = bits) ∨
      (kind.convert bits < 0 ∧ kind.convert bits = bits - valueCount kind.size) := by
  unfold convert
  have hmod : (bits : ℤ) % valueCount kind.size = bits :=
    Int.emod_eq_of_lt (Int.natCast_nonneg bits) (by exact_mod_cast h)
  split
  · rw [Int.bmod, hmod]
    split
    · exact .inl ⟨Int.natCast_nonneg bits, rfl⟩
    · exact .inr ⟨by omega, rfl⟩
  · exact .inl ⟨by rw [hmod]; exact Int.natCast_nonneg bits, hmod⟩

/-- Converting the bits of a number is converting the number, unless a sign has to be extended. -/
theorem convert_eq_convert_natCast_iff {bits : ℕ} (h : bits < valueCount source.size) :
    kind.convert bits = kind.convert (source.convert bits) ↔
      0 ≤ source.convert bits ∨ kind.size ≤ source.size := by
  rw [convert_eq_convert_iff]
  rcases convert_natCast_of_lt h with ⟨hsign, heq⟩ | ⟨hsign, heq⟩
  · rw [heq] at hsign ⊢
    exact iff_of_true rfl (.inl hsign)
  · rw [or_iff_right (Int.not_le.2 hsign), heq, ← valueCount_size_dvd_iff, ← Int.natCast_dvd_natCast]
    calc (bits : ℤ) ≡ bits - valueCount source.size [ZMOD valueCount kind.size]
        ↔ (valueCount kind.size : ℤ) ∣ bits - valueCount source.size - bits := Int.modEq_iff_dvd
      _ ↔ (valueCount kind.size : ℤ) ∣ -valueCount source.size := by rw [sub_sub_cancel_left]
      _ ↔ (valueCount kind.size : ℤ) ∣ valueCount source.size := Int.dvd_neg

end Scalar

/-! ## Readings -/

/-- A scalar whose bits are those of a number in two's complement: all bits of its bytes in memory, or
the lowest ones of a word. -/
inductive Value.StandsFor (memory : Memory) (kind : Scalar) (number : ℤ) : Value → Prop
  | atAddress {address : UInt64} (hbytes : memory.bytes? address kind.size =
      some (bytesOf (.ofInt (8 * kind.size) number))) :
      StandsFor memory kind number (.atAddress address (.scalar kind))
  | ofBits {bits : UInt64}
      (hbits : bits.toBitVec.setWidth (8 * kind.size) = .ofInt (8 * kind.size) number) :
      StandsFor memory kind number (.ofBits bits (.scalar kind))

theorem Value.StandsFor.type_eq {memory : Memory} {kind : Scalar} {number : ℤ} {value : Value}
    (h : value.StandsFor memory kind number) : value.type = .scalar kind := by
  cases h <;> rfl

namespace Target

variable {target : Target} {value : Value} {kind : Scalar} {bits : UInt64}

/-- A scalar has as many bytes as its type. -/
theorem length_of_readBytes {bytes : List UInt8} (htype : value.type = .scalar kind)
    (hbytes : target.readBytes value = .ok bytes) : bytes.length = kind.size := by
  rw [readBytes, htype, Registry.valueSize_scalar, Except.ok_bind] at hbytes
  split at hbytes
  · exact target.memory.length_bytes? (Memory.read_eq_ok_iff.1 hbytes)
  · cases hbytes
    rw [List.length_take, length_toLittleEndian, Nat.min_eq_left kind.size_le_eight]

/-- The bits of a scalar are no more than its type has. -/
theorem toNat_lt_of_readBits (htype : value.type = .scalar kind)
    (hbits : target.readBits value = .ok bits) : bits.toNat < valueCount kind.size := by
  rw [readBits, htype] at hbits
  obtain ⟨bytes, hbytes, ⟨⟩⟩ := Except.bind_eq_ok_iff.1 hbits
  rw [← length_of_readBytes htype hbytes]
  calc (UInt64.ofNat (ofLittleEndian bytes)).toNat
      = ofLittleEndian bytes % 2 ^ 64 := UInt64.toNat_ofNat
    _ ≤ ofLittleEndian bytes := Nat.mod_le _ _
    _ < valueCount bytes.length := ofLittleEndian_lt bytes

/-- The number of a scalar is its bits as a number of its type. -/
theorem readInteger_eq_convert (htype : value.type = .scalar kind)
    (hbits : target.readBits value = .ok bits) :
    target.readInteger value = .ok (kind.convert bits.toNat) := by
  have hmod : (bits.toNat : ℤ) % valueCount kind.size = bits.toNat :=
    Int.emod_eq_of_lt (Int.natCast_nonneg _) (by exact_mod_cast toNat_lt_of_readBits htype hbits)
  simp only [readInteger, hbits, Except.ok_bind, htype, Scalar.convert,
    signedValue_eq_bmod kind.size_le_eight, hmod]
  split <;> rfl

/-- A scalar in memory can be read where its bytes are mapped, and every other one. -/
theorem exists_readBits (htype : value.type = .scalar kind)
    (hmapped : ∀ address, value.address? = some address →
      (target.memory.bytes? address kind.size).isSome) : ∃ bits, target.readBits value = .ok bits := by
  have hbytes : ∃ bytes, target.readBytes value = .ok bytes := by
    rw [readBytes, htype, Registry.valueSize_scalar, Except.ok_bind]
    split
    · next address haddress =>
      have hsome := hmapped address (by rw [Value.address?, haddress])
      obtain ⟨bytes, hbytes⟩ := Option.isSome_iff_exists.1 hsome
      exact ⟨bytes, Memory.read_eq_ok_iff.2 hbytes⟩
    · exact ⟨_, rfl⟩
  obtain ⟨bytes, hbytes⟩ := hbytes
  exact ⟨_, by rw [readBits, htype, hbytes, Except.ok_bind]⟩

/-- A scalar without a place has the low bits of the word that it is. -/
theorem readBits_ofBits_scalar (kind : Scalar) (bits : UInt64) :
    target.readBits (.ofBits bits (.scalar kind)) =
      .ok (UInt64.ofNat (bits.toNat % valueCount kind.size)) := by
  have hbytes : target.readBytes (.ofBits bits (.scalar kind)) =
      .ok (toLittleEndian kind.size bits.toNat) := by
    rw [readBytes, Value.type_ofBits, Registry.valueSize_scalar, Except.ok_bind,
      ← take_toLittleEndian kind.size_le_eight]
    rfl
  simp only [readBits, Value.type_ofBits, hbytes, Except.ok_bind, ofLittleEndian_toLittleEndian]

theorem truncated_modEq (kind : Scalar) (bits : UInt64) :
    ((UInt64.ofNat (bits.toNat % valueCount kind.size)).toNat : ℤ) ≡ bits.toNat
      [ZMOD valueCount kind.size] := by
  have hlt : bits.toNat % valueCount kind.size < UInt64.size :=
    Nat.lt_of_le_of_lt (Nat.mod_le _ _) bits.toNat_lt
  rw [UInt64.toNat_ofNat_of_lt' hlt, Int.natCast_mod]
  exact Int.mod_modEq _ _

/-- The number of a scalar without a place is the word as a number of the type. -/
theorem readInteger_ofBits (kind : Scalar) (bits : UInt64) :
    target.readInteger (.ofBits bits (.scalar kind)) = .ok (kind.convert bits.toNat) := by
  rw [readInteger_eq_convert rfl (readBits_ofBits_scalar kind bits), Except.ok.injEq,
    Scalar.convert_eq_convert_iff]
  exact truncated_modEq kind bits

/-- A scalar in memory has the bits of its bytes. -/
theorem readBits_atAddress_scalar {address : UInt64} {bytes : List UInt8}
    (h : target.memory.bytes? address kind.size = some bytes) :
    target.readBits (.atAddress address (.scalar kind)) = .ok (UInt64.ofNat (ofLittleEndian bytes)) := by
  have hbytes := readBytes_atAddress (target.types.valueSize_scalar kind) h
  simp only [readBits, Value.type_atAddress, hbytes, Except.ok_bind]

/-! ## Numbers of the type -/

variable {number : ℤ}

/-- Bytes in memory and words without a place give the same bits. -/
theorem readBits_of_standsFor (h : value.StandsFor target.memory kind number) :
    target.readBits value = .ok (UInt64.ofNat (BitVec.ofInt (8 * kind.size) number).toNat) := by
  cases h with
  | atAddress hbytes => rw [readBits_atAddress_scalar hbytes, ofLittleEndian_bytesOf]
  | ofBits hbits =>
    rw [readBits_ofBits_scalar, ← hbits, BitVec.toNat_setWidth, valueCount_eq]
    rfl

/-- A number of the type is read back, and so are its bits. -/
theorem readInteger_of_standsFor (hrange : kind.InRange number)
    (hvalue : value.StandsFor target.memory kind number) :
    target.readInteger value = .ok number ∧ ∃ bits, target.readBits value = .ok bits ∧
      (bits.toNat : ℤ) = number % 2 ^ (8 * kind.size) := by
  have hbits := readBits_of_standsFor hvalue
  have hsize : 8 * kind.size ≤ 64 := Nat.mul_le_mul_left 8 kind.size_le_eight
  have hword : (BitVec.ofInt (8 * kind.size) number).toNat < UInt64.size :=
    (BitVec.isLt _).trans_le (Nat.pow_le_pow_right (by decide) hsize)
  have htoNat : ((UInt64.ofNat (BitVec.ofInt (8 * kind.size) number).toNat).toNat : ℤ) =
      number % 2 ^ (8 * kind.size) := by
    rw [UInt64.toNat_ofNat_of_lt' hword, BitVec.toNat_ofInt, Int.toNat_of_nonneg]
    · rfl
    · exact Int.emod_nonneg _ (Int.natCast_ne_zero.2 (Nat.two_pow_pos _).ne')
  refine ⟨?_, _, hbits, htoNat⟩
  rw [readInteger_eq_convert hvalue.type_eq hbits, Except.ok.injEq]
  calc
    _ = kind.convert number := by
      rw [Scalar.convert_eq_convert_iff, htoNat, valueCount_eq]
      exact Int.mod_modEq _ _
    _ = number := Scalar.convert_of_inRange hrange

/-- A target whose memory is the lowest number in four bytes. -/
def lowestNumber : Target where
  memory := (Snapshot.ofBytes 0x1000 #[0x00, 0x00, 0x00, 0x80]).memory
  types := .empty
  symbols := ∅
  symbolTypes := ∅

/-- The lowest number of four bytes in memory, and in a word with other bits before it. -/
theorem readInteger_of_standsFor_lowest : Scalar.int32.InRange (-2147483648) ∧
    ∀ value ∈ [Value.atAddress 0x1000 (.scalar .int32), .ofBits 0x12345678_80000000 (.scalar .int32)],
      value.StandsFor lowestNumber.memory .int32 (-2147483648) ∧
        lowestNumber.readInteger value = .ok (-2147483648) ∧
          ∃ bits, lowestNumber.readBits value = .ok bits ∧ (bits.toNat : ℤ) = 2147483648 := by
  have hrange : Scalar.int32.InRange (-2147483648) := by decide
  have hmemory : (Value.atAddress 0x1000 (.scalar .int32)).StandsFor lowestNumber.memory .int32
      (-2147483648) := .atAddress (by decide +kernel)
  have hword : (Value.ofBits 0x12345678_80000000 (.scalar .int32)).StandsFor lowestNumber.memory .int32
      (-2147483648) := .ofBits (by decide)
  refine ⟨hrange, List.forall_mem_cons.2 ⟨⟨hmemory, ?_⟩, List.forall_mem_singleton.2 ⟨hword, ?_⟩⟩⟩
  · exact readInteger_of_standsFor hrange hmemory
  · exact readInteger_of_standsFor hrange hword

end Target

end MemoryInspector
