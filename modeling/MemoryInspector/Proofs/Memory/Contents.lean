import MemoryInspector.Proofs.Memory.Region
import MemoryInspector.Text.LittleEndian

/-!
# Contents of a memory

A memory holds a list of bytes at an address if each part of the list can be read at its place.
What is held may be split, so that an image which is composed of parts is read part by part.
-/

namespace MemoryInspector

open Text

/-- The bytes of a word in memory. -/
def wordBytes (bits : UInt64) : List UInt8 := toLittleEndian 8 bits.toNat

@[simp]
theorem length_wordBytes (bits : UInt64) : (wordBytes bits).length = 8 :=
  length_toLittleEndian 8 bits.toNat

theorem ofLittleEndian_wordBytes (bits : UInt64) :
    UInt64.ofNat (ofLittleEndian (wordBytes bits)) = bits := by
  have hlt : bits.toNat < valueCount 8 := bits.toNat_lt
  calc
    UInt64.ofNat (ofLittleEndian (wordBytes bits)) = UInt64.ofNat (bits.toNat % valueCount 8) :=
      congrArg UInt64.ofNat (ofLittleEndian_toLittleEndian 8 bits.toNat)
    _ = UInt64.ofNat bits.toNat := by rw [Nat.mod_eq_of_lt hlt]
    _ = bits := UInt64.ofNat_toNat

theorem length_flatMap_wordBytes (words : List UInt64) :
    (words.flatMap wordBytes).length = words.length * 8 := by
  induction words with
  | nil => rfl
  | cons word rest ih =>
    rw [List.flatMap_cons, List.length_append, length_wordBytes, ih, List.length_cons]
    omega

namespace Memory

/-- The word that is stored at an address, if it can be read. -/
def word? (memory : Memory) (address : UInt64) : Option UInt64 :=
  (memory.bytes? address 8).map fun bytes ↦ UInt64.ofNat (ofLittleEndian bytes)

/-- The bytes can be read from the address on, and so can every part of them. -/
structure Holds (memory : Memory) (address : UInt64) (bytes : List UInt8) : Prop where
  below : address.toNat + bytes.length < UInt64.size
  bytes?_eq : ∀ offset count, 0 < count → offset + count ≤ bytes.length →
    memory.bytes? (address + UInt64.ofNat offset) count = some ((bytes.drop offset).take count)

namespace Holds

variable {memory : Memory} {address : UInt64} {bytes first second : List UInt8}

theorem left (h : memory.Holds address (first ++ second)) : memory.Holds address first := by
  obtain ⟨hbelow, hbytes⟩ := h
  rw [List.length_append] at hbelow hbytes
  refine ⟨by omega, ?_⟩
  intro offset count hcount hle
  rw [hbytes offset count hcount (by omega), List.drop_append_of_le_length (by omega),
    List.take_append_of_le_length (by rw [List.length_drop]; omega)]

theorem right {count : Nat} (h : memory.Holds address (first ++ second))
    (hfirst : first.length = count) : memory.Holds (address + UInt64.ofNat count) second := by
  subst hfirst
  obtain ⟨hbelow, hbytes⟩ := h
  rw [List.length_append] at hbelow hbytes
  constructor
  · rw [toNat_add_ofNat (by omega)]
    omega
  · intro offset count hcount hle
    rw [UInt64.add_assoc, ← UInt64.ofNat_add, hbytes _ count hcount (by omega), ← List.drop_drop,
      List.drop_left]

/-- All of the bytes, if there are any. -/
theorem bytes?_all {count : Nat} (h : memory.Holds address bytes) (hcount : bytes.length = count)
    (hpos : 0 < count) : memory.bytes? address count = some bytes := by
  subst hcount
  have hall := h.bytes?_eq 0 bytes.length hpos (by omega)
  rwa [show UInt64.ofNat 0 = 0 from rfl, UInt64.add_zero, List.drop_zero, List.take_length] at hall

/-- A word among consecutive ones. -/
theorem bytes?_word {words : List UInt64} (h : memory.Holds address (words.flatMap wordBytes))
    {index : Nat} (hindex : index < words.length) :
    memory.bytes? (address + UInt64.ofNat (index * 8)) 8 = some (wordBytes words[index]) := by
  induction words generalizing address index with
  | nil => exact absurd hindex (Nat.not_lt_zero _)
  | cons word rest ih =>
    rw [List.flatMap_cons] at h
    cases index with
    | zero =>
      have hword := h.left.bytes?_all (length_wordBytes word) (by decide)
      rwa [Nat.zero_mul, show UInt64.ofNat 0 = 0 from rfl, UInt64.add_zero]
    | succ index =>
      have hrest := ih (h.right (length_wordBytes word)) (Nat.lt_of_succ_lt_succ hindex)
      rw [UInt64.add_assoc, ← UInt64.ofNat_add] at hrest
      rwa [Nat.succ_mul, Nat.add_comm]

end Holds

end Memory

end MemoryInspector
