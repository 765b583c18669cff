import MemoryInspector.Proofs.Expression.Element
import MemoryInspector.Proofs.Target.Number

/-!
# Casts between scalars

A cast between scalars keeps the bits of its operand, extended by zeros. It is the conversion of
the number, as in C, unless the number is negative and the new type is the wider one: the sign is
not extended.
-/

namespace MemoryInspector

open Expression Text

namespace Target

variable {target : Target} {value : Value} {kind source : Scalar} {bits : UInt64}
  {text typeName : String} {names : List String}

/-- An expression behind a type in parentheses is cast to that type. -/
theorem evaluate_cast (hname : Spelling (names.map .word) typeName.toList) (hnames : names ≠ [])
    (htype : target.types.resolve (String.intercalate " " names) = .ok (.scalar kind))
    (hvalue : target.evaluate text = .ok value) (hbits : target.readBits value = .ok bits) :
    target.evaluate ("(" ++ typeName ++ ")" ++ text) =
      .ok (.ofBits (UInt64.ofNat (bits.toNat % valueCount kind.size)) (.scalar kind)) := by
  obtain ⟨tokens, term, hspelling, hreads, hdenotes⟩ := evaluate_eq_ok_iff_reads.1 hvalue
  have hwords : typeText names 0 = String.intercalate " " names := by
    rw [typeText, List.replicate_zero, List.append_nil]
  rw [← hwords] at htype
  have hcast : Reads target.types .unary
      (.mark .openParen :: (typeTokens names 0 ++ .mark .closeParen :: tokens))
      (.cast (.scalar kind) term) := .cast hnames htype hreads
  have htext : ("(" ++ typeName ++ ")" ++ text).toList =
      '(' :: (typeName.toList ++ ')' :: text.toList) := by simp
  refine evaluate_eq_ok_iff_reads.2 ⟨_, _, ?_, hcast, .castScalar hdenotes (.read hbits)⟩
  rw [htext, typeTokens, List.replicate_zero, List.append_nil]
  exact hname.parenthesize hspelling

/-- A scalar that is cast to a scalar type is converted as in C exactly if it is not negative or the
type is not wider than its own. -/
theorem evaluate_cast_converts_iff (hname : Spelling (names.map .word) typeName.toList)
    (hnames : names ≠ [])
    (htype : target.types.resolve (String.intercalate " " names) = .ok (.scalar kind))
    (hvalue : target.evaluate text = .ok value) (hsource : value.type = .scalar source)
    (hmapped : ∀ address, value.address? = some address →
      (target.memory.bytes? address source.size).isSome) :
    ∃ number result converted, target.readInteger value = .ok number ∧
      target.evaluate ("(" ++ typeName ++ ")" ++ text) = .ok result ∧
      target.readInteger result = .ok converted ∧
      (converted = kind.convert number ↔ 0 ≤ number ∨ kind.size ≤ source.size) := by
  obtain ⟨bits, hbits⟩ := exists_readBits hsource hmapped
  have hconverted : target.readInteger
      (.ofBits (UInt64.ofNat (bits.toNat % valueCount kind.size)) (.scalar kind)) =
        .ok (kind.convert bits.toNat) := by
    rw [readInteger_ofBits, Except.ok.injEq, Scalar.convert_eq_convert_iff]
    exact truncated_modEq kind bits
  exact ⟨_, _, _, readInteger_eq_convert hsource hbits,
    evaluate_cast hname hnames htype hvalue hbits, hconverted,
    Scalar.convert_eq_convert_natCast_iff (toNat_lt_of_readBits hsource hbits)⟩

/-- A target whose memory is the number -2 in four bytes. -/
def minusTwo : Target where
  memory := (Snapshot.ofBytes 0x1000 #[0xfe, 0xff, 0xff, 0xff]).memory
  types := Hierarchy.types
  symbols := ∅
  symbolTypes := ∅

/-- A narrower type keeps the negative number. -/
theorem evaluate_cast_converts_iff_short :
    minusTwo.evaluate "*(int *)0x1000" = .ok (.atAddress 0x1000 (.scalar .int32)) ∧
      ∃ result, minusTwo.evaluate "(short)*(int *)0x1000" = .ok result ∧
        minusTwo.readInteger result = .ok (-2) := by
  have hvalue : minusTwo.evaluate "*(int *)0x1000" = .ok (.atAddress 0x1000 (.scalar .int32)) := by
    decide +kernel
  have hname : Spelling (["short"].map .word) "short".toList :=
    scan_eq_ok_iff.1 (by decide +kernel)
  have htype : minusTwo.types.resolve (String.intercalate " " ["short"]) = .ok (.scalar .int16) := by
    decide +kernel
  have hmapped : ∀ address, (Value.atAddress 0x1000 (.scalar .int32)).address? = some address →
      (minusTwo.memory.bytes? address Scalar.int32.size).isSome := by
    rintro _ ⟨⟩
    decide +kernel
  have hread : minusTwo.readInteger (.atAddress 0x1000 (.scalar .int32)) = .ok (-2) := by
    decide +kernel
  obtain ⟨number, result, converted, hnumber, hresult, hconverted, hiff⟩ :=
    evaluate_cast_converts_iff hname (by simp) htype hvalue rfl hmapped
  obtain rfl : number = -2 := Except.ok.inj (hnumber.symm.trans hread)
  obtain rfl : converted = -2 := hiff.2 (.inr (by decide))
  exact ⟨hvalue, result, hresult, hconverted⟩

/-- A wider type does not keep it. -/
theorem evaluate_cast_ne_long :
    minusTwo.evaluate "*(int *)0x1000" = .ok (.atAddress 0x1000 (.scalar .int32)) ∧
      minusTwo.readInteger (.atAddress 0x1000 (.scalar .int32)) = .ok (-2) ∧
      minusTwo.evaluate "(long)*(int *)0x1000" = .ok (.ofBits 0xfffffffe (.scalar .int64)) ∧
      minusTwo.readInteger (.ofBits 0xfffffffe (.scalar .int64)) = .ok 4294967294 ∧
      Scalar.int64.convert (-2) = -2 := by
  decide +kernel

end Target

end MemoryInspector
