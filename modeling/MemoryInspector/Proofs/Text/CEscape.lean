import Mathlib.Tactic.IntervalCases
import MemoryInspector.Proofs.Text.Printable

/-!
# C escapes are undone

The reading of what stands between the quotes of a C string literal, by the rules of the language:
letters for newline and tab, a backslash before itself and before a quote, and three octal digits
for any byte. It gives back the bytes that were escaped, whatever they are.
-/

namespace MemoryInspector.Text

variable {bytes : List UInt8} {byte : UInt8} {rest : List Char}

/-- The value of an octal digit. -/
def octalValue? (c : Char) : Option Nat := if '0' ≤ c ∧ c ≤ '7' then some (c.toNat - 48) else none

/-- The byte that three octal digits stand for, most significant first. -/
def octalByte? (first second third : Char) : Option UInt8 :=
  (octalValue? first).bind fun high ↦ (octalValue? second).bind fun middle ↦
    (octalValue? third).bind fun low ↦
      let n := high * 64 + middle * 8 + low
      if n < 256 then some (UInt8.ofNat n) else none

/-- The bytes that the characters between two quotes stand for. Only printable ASCII stands for
itself, and neither a quote nor a backslash does. -/
def unescape? : List Char → Option (List UInt8)
  | [] => some []
  | '\\' :: 'n' :: rest => (unescape? rest).map (10 :: ·)
  | '\\' :: 't' :: rest => (unescape? rest).map (9 :: ·)
  | '\\' :: '\\' :: rest => (unescape? rest).map (92 :: ·)
  | '\\' :: '"' :: rest => (unescape? rest).map (34 :: ·)
  | '\\' :: first :: second :: third :: rest =>
    (octalByte? first second third).bind fun byte ↦ (unescape? rest).map (byte :: ·)
  | c :: rest =>
    if IsPrintable c ∧ c ≠ '"' ∧ c ≠ '\\' then (unescape? rest).map (UInt8.ofNat c.toNat :: ·)
    else none

/-- A character that stands for itself. -/
theorem unescape?_cons {c : Char} (hprintable : IsPrintable c) (hquote : c ≠ '"') (hslash : c ≠ '\\')
    (rest : List Char) : unescape? (c :: rest) = (unescape? rest).map (UInt8.ofNat c.toNat :: ·) := by
  rw [unescape?, if_pos ⟨hprintable, hquote, hslash⟩]
  all_goals simp [hslash]

theorem octalValue?_octalDigit (n : Nat) : octalValue? (octalDigit n) = some (n % 8) := by
  have hlt : n % 8 < 8 := Nat.mod_lt _ (by decide)
  rw [octalDigit]
  interval_cases n % 8 <;> rfl

/-- Three octal digits are enough for a byte. -/
theorem octalByte?_octalDigit (byte : UInt8) :
    octalByte? (octalDigit (byte.toNat / 64)) (octalDigit (byte.toNat / 8)) (octalDigit byte.toNat) =
      some byte := by
  have hlt : byte.toNat < 256 := byte.toNat_lt
  have hsum : byte.toNat / 64 % 8 * 64 + byte.toNat / 8 % 8 * 8 + byte.toNat % 8 = byte.toNat := by
    omega
  simp only [octalByte?, octalValue?_octalDigit, Option.bind_some, hsum, if_pos hlt,
    UInt8.ofNat_toNat]

/-- Octal digits are no letters, so an octal escape is nothing else. -/
theorem unescape?_octal {first second third : Char} (h : octalByte? first second third = some byte)
    (rest : List Char) :
    unescape? ('\\' :: first :: second :: third :: rest) = (unescape? rest).map (byte :: ·) := by
  have hfirst : (octalValue? first).isSome = true := by
    obtain ⟨high, hhigh, -⟩ := Option.bind_eq_some_iff.1 h
    rw [hhigh, Option.isSome_some]
  have hne : ∀ c, octalValue? c = none → first ≠ c := by
    rintro c hc rfl
    rw [hc] at hfirst
    cases hfirst
  rw [unescape?, h, Option.bind_some]
  all_goals exact hne _ (by decide)

/-- An escaped byte is read back, whatever is behind it. -/
theorem unescape?_escapeByte_append (byte : UInt8) (rest : List Char) :
    unescape? (escapeByte '"' byte ++ rest) = (unescape? rest).map (byte :: ·) := by
  have hletter : ∀ n : UInt8, byte.toNat = n.toNat → byte = n := fun n ↦ UInt8.toNat_inj.1
  simp only [escapeByte]
  split
  · next hnewline =>
    rw [hletter 10 hnewline]
    rfl
  split
  · next htab =>
    rw [hletter 9 htab]
    rfl
  split
  · next hslash =>
    rw [hletter 92 hslash]
    rfl
  split
  · next hquote =>
    rw [hletter 34 hquote]
    rfl
  split
  · next hslash hquote hrange =>
    have htoNat : (Char.ofNat byte.toNat).toNat = byte.toNat := toNat_charOfNat (by omega)
    have hne : ∀ c : Char, byte.toNat ≠ c.toNat → Char.ofNat byte.toNat ≠ c := by
      rintro c hc rfl
      exact hc htoNat.symm
    rw [List.singleton_append,
      unescape?_cons (isPrintable_ofNat hrange.1 hrange.2) (hne _ hquote) (hne _ hslash), htoNat,
      UInt8.ofNat_toNat]
  · exact unescape?_octal (octalByte?_octalDigit byte) rest

/-- Escaped bytes are read back. -/
theorem unescape?_escapeBytes (bytes : List UInt8) : unescape? (escapeBytes '"' bytes) = some bytes := by
  induction bytes with
  | nil => rfl
  | cons byte rest ih =>
    rw [escapeBytes, List.flatMap_cons, unescape?_escapeByte_append, ← escapeBytes, ih, Option.map_some]

end MemoryInspector.Text
