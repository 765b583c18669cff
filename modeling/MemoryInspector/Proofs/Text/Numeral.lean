import Mathlib.Data.List.Induction
import Mathlib.Tactic.IntervalCases
import MemoryInspector.Text.Numeral

/-!
# Numerals are read back

The numerals of a number, in decimal or in hexadecimal, are read as that number, and no other texts
are read as numerals but those with a plus sign before the digits.
-/

namespace MemoryInspector.Text

variable {base digit n : Nat} {text : List Char} {c : Char}

/-- The character is the digit. Letters are in lower or upper case. -/
def IsDigit (c : Char) (digit : Nat) : Prop := c = digit.digitChar ∨ c = digit.digitChar.toUpper

/-- The digits of a number in a base, with any zeros before them. -/
inductive Digits (base : Nat) : List Char → Nat → Prop
  | single {c : Char} {digit : Nat} (hc : IsDigit c digit) (hdigit : digit < base) :
      Digits base [c] digit
  | concat {text : List Char} {n : Nat} {c : Char} {digit : Nat} (htext : Digits base text n)
      (hc : IsDigit c digit) (hdigit : digit < base) : Digits base (text ++ [c]) (n * base + digit)

/-- A number in decimal, or in hexadecimal behind `0x` or `0X`. -/
inductive Numeral : List Char → Nat → Prop
  | decimal {text : List Char} {n : Nat} (htext : Digits 10 text n) : Numeral text n
  | hexadecimal {x : Char} {text : List Char} {n : Nat} (hx : x ∈ ['x', 'X'])
      (htext : Digits 16 text n) : Numeral ('0' :: x :: text) n

/-! ## Digits -/

theorem Digits.ne_nil (h : Digits base text n) : text ≠ [] := by
  cases h <;> simp

theorem isDigit_digitChar (digit : Nat) : IsDigit digit.digitChar digit := .inl rfl

theorem toNat_of_digit? (h : (digit? c).isSome = true) : 48 ≤ c.toNat ∧ c.toNat ≤ 102 := by
  have hle : ∀ first last : Char, first ≤ last ↔ first.toNat ≤ last.toNat := fun _ _ ↦ Iff.rfl
  have hends : '0'.toNat = 48 ∧ '9'.toNat = 57 ∧ 'A'.toNat = 65 ∧ 'F'.toNat = 70 ∧ 'a'.toNat = 97 ∧
      'f'.toNat = 102 := by decide
  unfold digit? at h
  simp only [hle] at h
  split at h
  · omega
  · split at h
    · omega
    · split at h
      · omega
      · cases h

theorem digit?_eq_some_iff : digit? c = some digit ↔ digit < 16 ∧ IsDigit c digit := by
  constructor
  · intro h
    obtain ⟨hlow, hhigh⟩ := toNat_of_digit? (Option.isSome_of_eq_some h)
    have hc : c = Char.ofNat c.toNat := (Char.ofNat_toNat c).symm
    generalize c.toNat = code at hc hlow hhigh
    subst hc
    have hall : ∀ code : Fin 103, ∀ digit ∈ digit? (Char.ofNat code), digit < 16 ∧
        (Char.ofNat code = digit.digitChar ∨ Char.ofNat code = digit.digitChar.toUpper) := by
      decide
    exact hall ⟨code, Nat.lt_succ_of_le hhigh⟩ digit h
  · rintro ⟨hdigit, rfl | rfl⟩
    · interval_cases digit <;> decide
    · interval_cases digit <;> decide

theorem digits?_singleton : digits? base [c] = some n ↔ digit? c = some n ∧ n < base := by
  simp [digits?, Option.bind_eq_some_iff]

theorem digits?_concat (hne : text ≠ []) : digits? base (text ++ [c]) = some n ↔
    ∃ front digit, digits? base text = some front ∧ digit? c = some digit ∧ digit < base ∧
      n = front * base + digit := by
  rw [digits?, digits?, if_neg (by simp), if_neg (by simpa using hne), List.foldlM_append]
  simp only [List.foldlM_cons, List.foldlM_nil, bind_pure, Option.bind_eq_bind,
    Option.bind_eq_some_iff, Option.ite_none_right_eq_some, Option.some.injEq]
  constructor
  · rintro ⟨front, hfront, digit, hc, hdigit, hn⟩
    exact ⟨front, digit, hfront, hc, hdigit, hn.symm⟩
  · rintro ⟨front, digit, hfront, hc, hdigit, hn⟩
    exact ⟨front, hfront, digit, hc, hdigit, hn.symm⟩

theorem digits?_eq_some_iff (hbase : base ≤ 16) : digits? base text = some n ↔ Digits base text n := by
  constructor
  · intro h
    induction text using List.reverseRecOn generalizing n with
    | nil => cases h
    | append_singleton text c ih =>
      by_cases hne : text = []
      · subst hne
        obtain ⟨hc, hdigit⟩ := digits?_singleton.1 h
        exact .single (digit?_eq_some_iff.1 hc).2 hdigit
      · obtain ⟨front, digit, hfront, hc, hdigit, rfl⟩ := (digits?_concat hne).1 h
        exact .concat (ih hfront) (digit?_eq_some_iff.1 hc).2 hdigit
  · intro h
    have hread : ∀ c digit, IsDigit c digit → digit < base → digit? c = some digit :=
      fun c digit hc hdigit ↦ digit?_eq_some_iff.2 ⟨hdigit.trans_le hbase, hc⟩
    induction h with
    | single hc hdigit => exact digits?_singleton.2 ⟨hread _ _ hc hdigit, hdigit⟩
    | concat htext hc hdigit ih =>
      exact (digits?_concat htext.ne_nil).2 ⟨_, _, ih, hread _ _ hc hdigit, hdigit, rfl⟩

theorem digits_toDigits (hone : 1 < base) (n : Nat) : Digits base (Nat.toDigits base n) n := by
  induction n using Nat.strongRecOn with
  | ind n ih =>
    by_cases hlt : n < base
    · rw [Nat.toDigits_of_lt_base hlt]
      exact .single (isDigit_digitChar n) hlt
    · have hdiv : n / base < n := Nat.div_lt_self (by omega) hone
      have hconcat := (ih _ hdiv).concat (isDigit_digitChar (n % base)) (Nat.mod_lt n (by omega))
      rwa [Nat.div_add_mod', ← Nat.toDigits_of_base_le hone (Nat.le_of_not_lt hlt)] at hconcat

/-! ## Numerals -/

theorem Digits.exists_isDigit (h : Digits base text n) (hc : c ∈ text) :
    ∃ digit < base, IsDigit c digit := by
  induction h with
  | single hdigit hlt =>
    cases List.mem_singleton.1 hc
    exact ⟨_, hlt, hdigit⟩
  | concat _ hdigit hlt ih =>
    rcases List.mem_append.1 hc with hc | hc
    · exact ih hc
    · cases List.mem_singleton.1 hc
      exact ⟨_, hlt, hdigit⟩

theorem word?_eq_some_iff (hbase : base ≤ 16) (hplus : text.head? ≠ some '+') {value : UInt64} :
    word? base text = some value ↔ Digits base text value.toNat := by
  have hword : word? base text = (digits? base text).bind fun value ↦
      if value < UInt64.size then some (UInt64.ofNat value) else none := by
    unfold word?
    split
    · exact absurd rfl hplus
    · rfl
  simp only [hword, Option.bind_eq_some_iff, digits?_eq_some_iff hbase, Option.ite_none_right_eq_some,
    Option.some.injEq]
  constructor
  · rintro ⟨n, hdigits, hlt, rfl⟩
    rwa [UInt64.toNat_ofNat_of_lt' hlt]
  · intro hdigits
    exact ⟨_, hdigits, value.toNat_lt_size, UInt64.ofNat_toNat⟩

theorem isDigit_of_isDigit (h : IsDigit c digit) (hdigit : digit < 10) : c.isDigit = true := by
  rcases h with rfl | rfl
  · interval_cases digit <;> decide
  · interval_cases digit <;> decide

theorem isAlphanum_of_isDigit (h : IsDigit c digit) (hdigit : digit < 16) : c.isAlphanum = true := by
  rcases h with rfl | rfl
  · interval_cases digit <;> decide
  · interval_cases digit <;> decide

theorem Digits.isDigit (h : Digits 10 text n) (hc : c ∈ text) : c.isDigit = true := by
  obtain ⟨digit, hdigit, hc⟩ := h.exists_isDigit hc
  exact isDigit_of_isDigit hc hdigit

theorem Numeral.isAlphanum (h : Numeral text n) (hc : c ∈ text) : c.isAlphanum = true := by
  cases h with
  | decimal hdigits =>
    obtain ⟨digit, hdigit, hc⟩ := hdigits.exists_isDigit hc
    exact isAlphanum_of_isDigit hc (by omega)
  | hexadecimal hx hdigits =>
    rcases List.mem_cons.1 hc with rfl | hc
    · decide
    rcases List.mem_cons.1 hc with rfl | hc
    · rcases List.mem_cons.1 hx with rfl | hx
      · decide
      · cases List.mem_singleton.1 hx
        decide
    · obtain ⟨digit, hdigit, hc⟩ := hdigits.exists_isDigit hc
      exact isAlphanum_of_isDigit hc hdigit

/-- Numerals start with a decimal digit, those in hexadecimal too. -/
theorem Numeral.exists_cons (h : Numeral text n) : ∃ c rest, text = c :: rest ∧ c.isDigit = true := by
  cases h with
  | decimal hdigits =>
    obtain ⟨c, rest, rfl⟩ := List.exists_cons_of_ne_nil hdigits.ne_nil
    exact ⟨c, rest, rfl, hdigits.isDigit List.mem_cons_self⟩
  | hexadecimal => exact ⟨_, _, rfl, by decide⟩

/-- What is read as a number, a plus sign apart. -/
theorem integer?_eq_some_iff (hplus : '+' ∉ text) {value : UInt64} :
    integer? text = some value ↔ Numeral text value.toNat := by
  have hhead : ∀ rest, rest ⊆ text → rest.head? ≠ some '+' :=
    fun rest hsubset heq ↦ hplus (hsubset (List.mem_of_head? heq))
  constructor
  · intro h
    unfold integer? at h
    split at h
    · next rest =>
      exact .hexadecimal (by decide) ((word?_eq_some_iff (by decide) (hhead rest (by simp))).1 h)
    · next rest =>
      exact .hexadecimal (by decide) ((word?_eq_some_iff (by decide) (hhead rest (by simp))).1 h)
    · exact .decimal ((word?_eq_some_iff (by decide) (hhead _ (List.Subset.refl _))).1 h)
  · intro h
    cases h with
    | decimal hdigits =>
      have hmark : ∀ x rest, text = '0' :: x :: rest → x.isDigit = true :=
        fun x rest heq ↦ hdigits.isDigit (by simp [heq])
      have hword := (word?_eq_some_iff (by decide) (hhead _ (List.Subset.refl _))).2 hdigits
      unfold integer?
      split
      · exact absurd (hmark _ _ rfl) (by decide)
      · exact absurd (hmark _ _ rfl) (by decide)
      · exact hword
    | @hexadecimal x rest _ hx hdigits =>
      have hword := (word?_eq_some_iff (by decide) (hhead rest (by simp))).2 hdigits
      rcases List.mem_cons.1 hx with rfl | hx
      · exact hword
      · cases List.mem_singleton.1 hx
        exact hword

/-- A decimal numeral below 2 ^ 64. -/
theorem integer?_toDigits (h : n < UInt64.size) :
    integer? (Nat.toDigits 10 n) = some (UInt64.ofNat n) := by
  have hdigits := digits_toDigits (by decide : 1 < 10) n
  have hplus : '+' ∉ Nat.toDigits 10 n := fun hmem ↦ absurd (hdigits.isDigit hmem) (by decide)
  rw [integer?_eq_some_iff hplus, UInt64.toNat_ofNat_of_lt' h]
  exact .decimal hdigits

/-! ## Characters of numerals -/

theorem isSome_digit?_of_mem (hbase : base ≤ 16) (h : digits? base text = some n) (hc : c ∈ text) :
    (digit? c).isSome = true := by
  obtain ⟨digit, hdigit, hc⟩ := ((digits?_eq_some_iff hbase).1 h).exists_isDigit hc
  exact Option.isSome_of_eq_some (digit?_eq_some_iff.2 ⟨hdigit.trans_le hbase, hc⟩)

theorem mem_of_word? {value : UInt64} (hbase : base ≤ 16) (h : word? base text = some value)
    (hc : c ∈ text) :
    (digit? c).isSome = true ∨ c = '+' := by
  unfold word? at h
  obtain ⟨n, hn, -⟩ := Option.bind_eq_some_iff.1 h
  split at hn
  · rcases List.mem_cons.1 hc with rfl | hc
    · exact .inr rfl
    · exact .inl (isSome_digit?_of_mem hbase hn hc)
  · exact .inl (isSome_digit?_of_mem hbase hn hc)

/-- A numeral is made of digits, but for a plus sign and the mark of its base. -/
theorem mem_of_integer? {value : UInt64} (h : integer? text = some value) (hc : c ∈ text) :
    (digit? c).isSome = true ∨ c ∈ ['+', 'x', 'X'] := by
  have hplus : ∀ base ≤ 16, ∀ chars, word? base chars = some value → c ∈ chars →
      (digit? c).isSome = true ∨ c ∈ ['+', 'x', 'X'] := by
    intro base hbase chars hchars hc
    rcases mem_of_word? hbase hchars hc with hdigit | rfl
    · exact .inl hdigit
    · exact .inr List.mem_cons_self
  unfold integer? at h
  split at h
  · rcases List.mem_cons.1 hc with rfl | hc
    · exact .inl rfl
    rcases List.mem_cons.1 hc with rfl | hc
    · exact .inr (by decide)
    · exact hplus _ (by decide) _ h hc
  · rcases List.mem_cons.1 hc with rfl | hc
    · exact .inl rfl
    rcases List.mem_cons.1 hc with rfl | hc
    · exact .inr (by decide)
    · exact hplus _ (by decide) _ h hc
  · exact hplus _ (by decide) _ h hc

end MemoryInspector.Text
