import MemoryInspector.Compression.Deflate

/-!
# Zlib streams

Deflated data between a header of two bytes and a checksum.
-/

namespace MemoryInspector.Compression.Zlib

open Deflate

/-- The header names the method and the window, asks for no dictionary, and is a multiple of 31. -/
def header : Deflate Unit := do
  let first ← bits 8
  let second ← bits 8
  let isValid := (first * 256 + second) % 31 = 0 ∧ (second / 32) % 2 = 0 ∧ first % 16 = 8 ∧
    first / 16 ≤ 7
  if isValid then return () else throw .malformed

/-- The checksum: the sum of the bytes, and the sum of the sums on the way. -/
def checksum (bytes : ByteArray) : Nat :=
  let (low, high) := bytes.data.foldl (fun (low, high) b ↦
    let next := (low + b.toNat) % 65521
    (next, (high + next) % 65521)) (1, 0)
  high * 65536 + low

/-- The checksum behind the data, the highest byte first. -/
def trailer : Deflate Unit := do
  align
  let found ← (List.range 4).foldlM (fun n _ ↦ do return n * 256 + (← bits 8)) 0
  if found = checksum (← get).output then return () else throw .malformed

def stream (limit : Nat) : Deflate Unit := do
  header
  blocks limit
  trailer

/-- Expand a stream to data of a known size. What follows the data does not count. -/
def expand? (bytes : ByteArray) (size : Nat) : Option ByteArray :=
  let (outcome, progress) := (((stream (8 * bytes.size + 1)).run ⟨bytes, size⟩).run).run ⟨0, .empty⟩
  let output := progress.output
  match outcome with
  | .error .malformed => none
  | .error .full | .ok () => if output.size = size then some output else none

end MemoryInspector.Compression.Zlib
