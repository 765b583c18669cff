import MemoryInspector.Proofs.Text.Numeral

/-!
# Numbers shown in hexadecimal

A number is shown by its digits in lower case, without needless zeros, behind a minus sign if it is
negative. Every number has one numeral of this form, which is read back as the number.
-/

namespace MemoryInspector.Text

variable {text rest : List Char} {n digit : Nat} {i : Int} {c : Char}

def hexDigits : List Char := "0123456789abcdef".toList

/-- Digits in lower case. The first one is zero only if it stands alone. -/
inductive IsHexadecimal : List Char → Prop
  | zero : IsHexadecimal ['0']
  | digits {c : Char} {rest : List Char} (hc : c ∈ hexDigits) (hzero : c ≠ '0')
      (hrest : ∀ d ∈ rest, d ∈ hexDigits) : IsHexadecimal (c :: rest)

/-- The number of hexadecimal digits, with a minus sign before them or without. -/
def signedHex? : List Char → Option Int
  | '-' :: text => (digits? 16 text).map fun n : Nat ↦ -(n : Int)
  | text => (digits? 16 text).map fun n : Nat ↦ (n : Int)

/-- A number as it is shown. The minus sign is there for negative numbers, and for no others. -/
inductive SignedHexadecimal : List Char → Int → Prop
  | nonneg {text : List Char} {i : Int} (hsign : 0 ≤ i) (htext : IsHexadecimal text)
      (hvalue : signedHex? text = some i) : SignedHexadecimal text i
  | neg {text : List Char} {i : Int} (hsign : i < 0) (htext : IsHexadecimal text)
      (hvalue : signedHex? ('-' :: text) = some i) : SignedHexadecimal ('-' :: text) i

/-! ## Digits -/

theorem digitChar_mem_hexDigits (h : digit < 16) : digit.digitChar ∈ hexDigits := by
  revert digit
  decide

theorem IsDigit.eq_digitChar (h : IsDigit c digit) (hdigit : digit < 16) (hc : c ∈ hexDigits) :
    c = digit.digitChar := by
  have hupper : ∀ digit < 16, digit.digitChar.toUpper ∈ hexDigits →
      digit.digitChar.toUpper = digit.digitChar := by decide
  rcases h with rfl | rfl
  · rfl
  · exact hupper digit hdigit hc

theorem isHexadecimal_cons : IsHexadecimal (c :: rest) ↔
    c = '0' ∧ rest = [] ∨ c ∈ hexDigits ∧ c ≠ '0' ∧ ∀ d ∈ rest, d ∈ hexDigits := by
  constructor
  · intro h
    cases h with
    | zero => exact .inl ⟨rfl, rfl⟩
    | digits hc hzero hrest => exact .inr ⟨hc, hzero, hrest⟩
  · rintro (⟨rfl, rfl⟩ | ⟨hc, hzero, hrest⟩)
    · exact .zero
    · exact .digits hc hzero hrest

theorem isHexadecimal_singleton : IsHexadecimal [c] ↔ c ∈ hexDigits := by
  constructor
  · intro h
    cases h with
    | zero => decide
    | digits hc => exact hc
  · intro hc
    by_cases hzero : c = '0'
    · exact isHexadecimal_cons.2 (.inl ⟨hzero, rfl⟩)
    · exact .digits hc hzero (List.forall_mem_nil _)

/-- A digit may follow any numeral but a zero. -/
theorem isHexadecimal_concat (hne : text ≠ []) : IsHexadecimal (text ++ [c]) ↔
    IsHexadecimal text ∧ text ≠ ['0'] ∧ c ∈ hexDigits := by
  obtain ⟨first, rest, rfl⟩ := List.exists_cons_of_ne_nil hne
  rw [List.cons_append, isHexadecimal_cons, isHexadecimal_cons, List.forall_mem_append,
    List.forall_mem_singleton]
  constructor
  · rintro (⟨-, hnil⟩ | ⟨hfirst, hzero, hrest, hc⟩)
    · exact absurd hnil (List.append_ne_nil_of_right_ne_nil _ (List.cons_ne_nil _ _))
    · exact ⟨.inr ⟨hfirst, hzero, hrest⟩, fun heq ↦ hzero (List.head_eq_of_cons_eq heq), hc⟩
  · rintro ⟨⟨rfl, rfl⟩ | ⟨hfirst, hzero, hrest⟩, hne, hc⟩
    · exact absurd rfl hne
    · exact .inr ⟨hfirst, hzero, hrest, hc⟩

/-! ## One numeral for each number -/

theorem digits?_toDigits (n : Nat) : digits? 16 (Nat.toDigits 16 n) = some n :=
  (digits?_eq_some_iff le_rfl).2 (digits_toDigits (by decide) n)

theorem isHexadecimal_toDigits (n : Nat) : IsHexadecimal (Nat.toDigits 16 n) := by
  induction n using Nat.strongRecOn with
  | ind n ih =>
    by_cases hlt : n < 16
    · rw [Nat.toDigits_of_lt_base hlt]
      exact isHexadecimal_singleton.2 (digitChar_mem_hexDigits hlt)
    · rw [Nat.toDigits_of_base_le (by decide) (Nat.le_of_not_lt hlt),
        isHexadecimal_concat Nat.toDigits_ne_nil]
      have hmod : n % 16 < 16 := Nat.mod_lt n (by decide)
      refine ⟨ih (n / 16) (by omega), ?_, digitChar_mem_hexDigits hmod⟩
      -- What comes before the last digit is read as `n / 16`, which is not zero.
      intro hzero
      have hvalue := digits?_toDigits (n / 16)
      rw [hzero] at hvalue
      have hdiv : 0 = n / 16 := Option.some.inj hvalue
      omega

theorem Digits.toDigits_eq (h : Digits 16 text n) (htext : IsHexadecimal text) :
    Nat.toDigits 16 n = text := by
  induction h with
  | single hc hdigit =>
    rw [Nat.toDigits_of_lt_base hdigit, hc.eq_digitChar hdigit (isHexadecimal_singleton.1 htext)]
  | @concat text n c digit hfront hc hdigit ih =>
    obtain ⟨htext, hzero, hmem⟩ := (isHexadecimal_concat hfront.ne_nil).1 htext
    have hn : n ≠ 0 := by
      rintro rfl
      exact hzero (ih htext).symm
    calc
      Nat.toDigits 16 (n * 16 + digit) = Nat.toDigits 16 n ++ Nat.toDigits 16 digit := by
        rw [Nat.mul_comm, Nat.toDigits_append_toDigits (by decide) (Nat.pos_of_ne_zero hn) hdigit]
      _ = text ++ [c] := by
        rw [ih htext, Nat.toDigits_of_lt_base hdigit, ← hc.eq_digitChar hdigit hmem]

/-- The digits of a number are the only ones without needless zeros that are read as the number. -/
theorem toDigits_eq_iff :
    Nat.toDigits 16 n = text ↔ IsHexadecimal text ∧ digits? 16 text = some n := by
  constructor
  · rintro rfl
    exact ⟨isHexadecimal_toDigits n, digits?_toDigits n⟩
  · rintro ⟨htext, hvalue⟩
    exact ((digits?_eq_some_iff le_rfl).1 hvalue).toDigits_eq htext

/-! ## Signs -/

theorem signedHex?_minus :
    signedHex? ('-' :: text) = some i ↔ digits? 16 text = some i.natAbs ∧ i ≤ 0 := by
  rw [signedHex?, Option.map_eq_some_iff]
  constructor
  · rintro ⟨n, hn, rfl⟩
    rw [Int.natAbs_neg, Int.natAbs_natCast]
    exact ⟨hn, by omega⟩
  · rintro ⟨hn, hsign⟩
    exact ⟨_, hn, by omega⟩

theorem IsHexadecimal.signedHex?_eq_some_iff (h : IsHexadecimal text) :
    signedHex? text = some i ↔ digits? 16 text = some i.natAbs ∧ 0 ≤ i := by
  have hunsigned : signedHex? text = (digits? 16 text).map fun n : Nat ↦ (n : Int) := by
    unfold signedHex?
    split
    · cases h with
      | digits hc => exact absurd hc (by decide)
    · rfl
  rw [hunsigned, Option.map_eq_some_iff]
  constructor
  · rintro ⟨n, hn, rfl⟩
    exact ⟨hn, by omega⟩
  · rintro ⟨hn, hsign⟩
    exact ⟨_, hn, by omega⟩

theorem toList_signedHex_of_nonneg (h : 0 ≤ i) :
    (signedHex i).toList = Nat.toDigits 16 i.natAbs := by
  rw [signedHex, if_neg (Int.not_lt.2 h), hex, String.toList_ofList]

theorem toList_signedHex_of_neg (h : i < 0) :
    (signedHex i).toList = '-' :: Nat.toDigits 16 i.natAbs := by
  simp only [signedHex, if_pos h, hex, String.toList_append, String.toList_ofList]
  rfl

/-- A number is shown by its numeral, and by no other text. -/
theorem toList_signedHex_eq_iff : (signedHex i).toList = text ↔ SignedHexadecimal text i := by
  constructor
  · rintro rfl
    have hform := isHexadecimal_toDigits i.natAbs
    have hvalue := digits?_toDigits i.natAbs
    rcases lt_or_ge i 0 with hsign | hsign
    · rw [toList_signedHex_of_neg hsign]
      exact .neg hsign hform (signedHex?_minus.2 ⟨hvalue, hsign.le⟩)
    · rw [toList_signedHex_of_nonneg hsign]
      exact .nonneg hsign hform (hform.signedHex?_eq_some_iff.2 ⟨hvalue, hsign⟩)
  · intro h
    cases h with
    | nonneg hsign hform hvalue =>
      have hdigits := (hform.signedHex?_eq_some_iff.1 hvalue).1
      rw [toList_signedHex_of_nonneg hsign, toDigits_eq_iff.2 ⟨hform, hdigits⟩]
    | neg hsign hform hvalue =>
      have hdigits := (signedHex?_minus.1 hvalue).1
      rw [toList_signedHex_of_neg hsign, toDigits_eq_iff.2 ⟨hform, hdigits⟩]

end MemoryInspector.Text
