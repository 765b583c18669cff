import MemoryInspector.Error

/-!
# Target memory

A memory answers reads of byte ranges: all bytes of the range, or nothing.
-/

namespace MemoryInspector

structure Memory where
  /-- The bytes of a range, if all of them can be read. -/
  bytes? : (address : UInt64) → (count : Nat) → Option (List UInt8)
  length_bytes? : ∀ {address count found}, bytes? address count = some found → found.length = count
  /-- What the memory is an image of. -/
  description : String

namespace Memory

def read (memory : Memory) (address : UInt64) (count : Nat) : Except InspectError (List UInt8) :=
  match memory.bytes? address count with
  | some found => .ok found
  | none => .error (.unreadable address count)

theorem read_eq_ok_iff {memory : Memory} {address : UInt64} {count : Nat} {found : List UInt8} :
    memory.read address count = .ok found ↔ memory.bytes? address count = some found := by
  unfold read
  cases memory.bytes? address count <;> simp

theorem read_eq_error_iff {memory : Memory} {address : UInt64} {count : Nat} {e : InspectError} :
    memory.read address count = .error e ↔
      memory.bytes? address count = none ∧ e = .unreadable address count := by
  unfold read
  cases memory.bytes? address count <;> simp [eq_comm]

end Memory

end MemoryInspector
