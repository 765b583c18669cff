import MemoryInspector.Hierarchy.Stamp
import MemoryInspector.Proofs.Text.Hexadecimal

/-!
# The text of visit stamps

Both numbers of a stamp are shown in full, the second one right behind the first. The text does not
tell where the first one ends.
-/

namespace MemoryInspector.Hierarchy

open Text

/-- The text of a stamp consists of the numerals of its two numbers, and no other text does. -/
theorem Stamp.text_eq_iff_numerals (stamp : Stamp) (text : String) :
    stamp.text = text ↔ ∃ first second : List Char, text.toList = first ++ second ∧
      SignedHexadecimal first stamp.seconds ∧ SignedHexadecimal second stamp.nanoseconds := by
  simp only [← toList_signedHex_eq_iff]
  constructor
  · rintro rfl
    exact ⟨_, _, String.toList_append, rfl, rfl⟩
  · rintro ⟨first, second, htext, rfl, rfl⟩
    rw [Stamp.text, ← String.toList_inj, String.toList_append, htext]

example : (Stamp.mk 0x12 0x3).text = (Stamp.mk 0x1 0x23).text := by decide

end MemoryInspector.Hierarchy
