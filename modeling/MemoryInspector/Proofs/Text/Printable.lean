import MemoryInspector.Proofs.Text.Numeral
import MemoryInspector.Text.CEscape

/-!
# Printable texts

Texts of printable ASCII characters. Numerals and escaped bytes are printable whatever the numbers
and the bytes are.
-/

namespace MemoryInspector.Text

/-- The character is printable ASCII. -/
def IsPrintable (c : Char) : Prop := 0x20 ≤ c.toNat ∧ c.toNat ≤ 0x7E

instance (c : Char) : Decidable (IsPrintable c) := inferInstanceAs (Decidable (_ ∧ _))

/-- All characters are printable ASCII. -/
def Printable (text : String) : Prop := ∀ c ∈ text.toList, IsPrintable c

instance (text : String) : Decidable (Printable text) := List.decidableBAll IsPrintable text.toList

variable {text other : String}

theorem Printable.newline_not_mem (h : Printable text) : '\n' ∉ text.toList := by
  intro hmem
  exact absurd (h '\n' hmem) (by decide)

/-! ## Texts put together -/

theorem Printable.append (h : Printable text) (hother : Printable other) :
    Printable (text ++ other) := by
  intro c hc
  rw [String.toList_append] at hc
  rcases List.mem_append.1 hc with hc | hc
  · exact h c hc
  · exact hother c hc

theorem printable_join {texts : List String} (h : ∀ text ∈ texts, Printable text) :
    Printable (String.join texts) := by
  intro c hc
  rw [String.toList_join] at hc
  obtain ⟨text, htext, hc⟩ := List.mem_flatMap.1 hc
  exact h text htext c hc

theorem printable_intercalate {texts : List String} (hother : Printable other)
    (h : ∀ text ∈ texts, Printable text) : Printable (String.intercalate other texts) := by
  induction texts with
  | nil =>
    rw [String.intercalate_nil]
    decide
  | cons text rest ih =>
    have htext := h text List.mem_cons_self
    have hrest := ih fun text htext ↦ h text (List.mem_cons_of_mem _ htext)
    cases rest with
    | nil => rwa [String.intercalate_singleton]
    | cons second others =>
      rw [String.intercalate_cons_cons]
      exact (htext.append hother).append hrest

/-! ## Numerals -/

theorem isPrintable_of_isDigit {c : Char} {digit : Nat} (h : IsDigit c digit) (hdigit : digit < 16) :
    IsPrintable c := by
  rcases h with rfl | rfl
  · interval_cases digit <;> decide
  · interval_cases digit <;> decide

theorem printable_toDigits {base : Nat} (hone : 1 < base) (hbase : base ≤ 16) (n : Nat) :
    ∀ c ∈ Nat.toDigits base n, IsPrintable c := by
  intro c hc
  obtain ⟨digit, hdigit, hc⟩ := (digits_toDigits hone n).exists_isDigit hc
  exact isPrintable_of_isDigit hc (hdigit.trans_le hbase)

theorem printable_decimal (n : Nat) : Printable (decimal n) := by
  intro c hc
  rw [decimal, String.toList_ofList] at hc
  exact printable_toDigits (by decide) (by decide) n c hc

theorem printable_hex (n : Nat) : Printable (hex n) := by
  intro c hc
  rw [hex, String.toList_ofList] at hc
  exact printable_toDigits (by decide) (by decide) n c hc

theorem printable_signedDecimal (i : Int) : Printable (signedDecimal i) := by
  have hminus : Printable "-" := by decide
  rw [signedDecimal]
  split
  · exact hminus.append (printable_decimal _)
  · exact printable_decimal _

theorem printable_signedHex (i : Int) : Printable (signedHex i) := by
  have hminus : Printable "-" := by decide
  rw [signedHex]
  split
  · exact hminus.append (printable_hex _)
  · exact printable_hex _

/-! ## Escapes -/

theorem isPrintable_octalDigit (n : Nat) : IsPrintable (octalDigit n) := by
  have hlt : n % 8 < 8 := Nat.mod_lt _ (by decide)
  rw [octalDigit]
  interval_cases n % 8 <;> decide

/-- The code of an ASCII character. -/
theorem toNat_charOfNat {n : Nat} (h : n < 128) : (Char.ofNat n).toNat = n := by
  have hvalid : n.isValidChar := .inl (by omega)
  rw [Char.ofNat, dif_pos hvalid]
  rfl

theorem isPrintable_ofNat {n : Nat} (hlow : 32 ≤ n) (hhigh : n ≤ 126) : IsPrintable (Char.ofNat n) := by
  rw [IsPrintable, toNat_charOfNat (by omega)]
  exact ⟨hlow, hhigh⟩

theorem isPrintable_of_mem_escapeByte {quote c : Char} (hquote : IsPrintable quote) {byte : UInt8}
    (hc : c ∈ escapeByte quote byte) : IsPrintable c := by
  have hslash : IsPrintable '\\' := by decide
  have hcons : ∀ {escaped : List Char}, (∀ d ∈ escaped, IsPrintable d) → c ∈ '\\' :: escaped →
      IsPrintable c := by
    intro escaped hescaped hc
    rcases List.mem_cons.1 hc with rfl | hc
    · exact hslash
    · exact hescaped c hc
  simp only [escapeByte] at hc
  split at hc
  · exact hcons (List.forall_mem_singleton.2 (by decide)) hc
  · split at hc
    · exact hcons (List.forall_mem_singleton.2 (by decide)) hc
    · split at hc
      · exact hcons (List.forall_mem_singleton.2 (by decide)) hc
      · split at hc
        · exact hcons (by simpa using hquote) hc
        · split at hc
          · next hrange =>
            rw [List.mem_singleton] at hc
            subst hc
            exact isPrintable_ofNat hrange.1 hrange.2
          · exact hcons (by simp [isPrintable_octalDigit]) hc

theorem printable_quoteChar (byte : UInt8) : Printable (quoteChar byte) := by
  intro c hc
  rw [quoteChar, String.toList_ofList, List.cons_append, List.mem_cons, List.mem_append,
    List.mem_singleton] at hc
  rcases hc with rfl | hc | rfl
  · decide
  · exact isPrintable_of_mem_escapeByte (by decide) hc
  · decide

theorem printable_quoteString (bytes : List UInt8) : Printable (quoteString bytes) := by
  intro c hc
  rw [quoteString, String.toList_ofList, List.cons_append, List.mem_cons, List.mem_append,
    List.mem_singleton] at hc
  rcases hc with rfl | hc | rfl
  · decide
  · obtain ⟨byte, -, hc⟩ := List.mem_flatMap.1 hc
    exact isPrintable_of_mem_escapeByte (by decide) hc
  · decide

end MemoryInspector.Text
