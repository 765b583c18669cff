import MemoryInspector.Pattern.CodePoints

/-!
# Byte sequences of characters

The characters of a set in UTF-8, as sequences of ranges of bytes: a sequence stands for all texts
that take one byte from each of its ranges.
-/

namespace MemoryInspector.Pattern

/-- The bytes from the first to the second. -/
abbrev ByteRange := UInt8 × UInt8

namespace CodeRange

/-- Cut a range in front of a code point. -/
def cutAt (n : Nat) (r : CodeRange) : List CodeRange :=
  if r.least < n ∧ n ≤ r.greatest then [⟨r.least, n - 1⟩, ⟨n, r.greatest⟩] else [r]

/-- Cut a range that reaches into several blocks of a size so that every piece lies in one block or
fills all of its blocks. -/
def cutBlocks (size : Nat) (r : CodeRange) : List CodeRange :=
  let first := r.least / size
  let last := r.greatest / size
  if first = last then [r]
  else if r.least % size = 0 then cutEnd r
  else ⟨r.least, (first + 1) * size - 1⟩ :: cutEnd ⟨(first + 1) * size, r.greatest⟩
where
  cutEnd (r : CodeRange) : List CodeRange :=
    let last := r.greatest / size * size
    if r.least / size = r.greatest / size ∨ r.greatest + 1 = last + size then [r]
    else [⟨r.least, last - 1⟩, ⟨last, r.greatest⟩]

/-- The sequence for a range whose ends differ in bytes that run through all values. -/
def byteSequence (r : CodeRange) : List ByteRange :=
  (String.utf8EncodeChar (Char.ofNat r.least)).zip (String.utf8EncodeChar (Char.ofNat r.greatest))

/-- The sequences for a range of characters, in their order. -/
def byteSequences (r : CodeRange) : List (List ByteRange) :=
  let pieces := [0x80, 0x800, 0x10000].foldl (fun pieces n ↦ pieces.flatMap (cutAt n)) [r]
  pieces.flatMap fun piece ↦
    if piece.greatest < 0x80 then [piece.byteSequence]
    else
      ([1 <<< 6, 1 <<< 12, 1 <<< 18].foldl
        (fun pieces size ↦ pieces.flatMap (cutBlocks size)) [piece]).map byteSequence

end CodeRange

/-- The sequences for the characters of a set, in their order. -/
def CodePoints.byteSequences (a : CodePoints) : List (List ByteRange) :=
  a.ranges.flatMap (·.byteSequences)

example : (CodeRange.byteSequences ⟨0x41, 0x7FF⟩) =
    [[(0x41, 0x7F)], [(0xC2, 0xDF), (0x80, 0xBF)]] := by
  decide

end MemoryInspector.Pattern
