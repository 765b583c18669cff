import MemoryInspector.Binary.Bytes
import MemoryInspector.Compression.Zlib
import MemoryInspector.Compression.Zstandard

/-!
# Compressed sections

Sections whose contents are written in a shorter form, behind a header that gives their size.
-/

namespace MemoryInspector.Binary

inductive CompressionMethod where
  | zlib
  | zstandard
deriving DecidableEq, Repr

namespace CompressionMethod

def ofCode? : Nat → Option CompressionMethod
  | 1 => some zlib
  | 2 => some zstandard
  | _ => none

/-- Expand bytes to contents of a known size. -/
def expand? : CompressionMethod → (bytes : ByteArray) → (size : Nat) → Option ByteArray
  | zlib => Compression.Zlib.expand?
  | zstandard => Compression.Zstandard.expand?

end CompressionMethod

/-- The contents of a section that its name marks as compressed. It starts with a mark and with the
size of the contents, the highest byte first and below 2 ^ 32. -/
def expandMarked? (contents : ByteArray) (offset size : Nat) : Option ByteArray := do
  let mark ← number? .big contents offset 8
  guard (mark = 0x5A4C494200000000)
  let expanded ← number? .big contents (offset + 8) 4
  guard (12 ≤ size)
  CompressionMethod.zlib.expand? (← slice? contents (offset + 12) (size - 12)) expanded

end MemoryInspector.Binary
