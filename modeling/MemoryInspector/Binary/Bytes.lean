/-!
# Fields of binary files

Numbers and texts at given offsets of a file, in either byte order. A field that does not lie
inside the file cannot be read.
-/

namespace MemoryInspector.Binary

inductive ByteOrder where
  | little
  | big
deriving DecidableEq, Repr

/-- The number that the bytes from an offset on spell. -/
def number? (order : ByteOrder) (bytes : ByteArray) (offset width : Nat) : Option Nat :=
  if offset + width ≤ bytes.size then
    let digits := (bytes.extract offset (offset + width)).data.toList
    let ordered := match order with
      | .little => digits.reverse
      | .big => digits
    some (ordered.foldl (fun n b ↦ n * 256 + b.toNat) 0)
  else none

def slice? (bytes : ByteArray) (offset count : Nat) : Option ByteArray :=
  if offset + count ≤ bytes.size then some (bytes.extract offset (offset + count)) else none

/-- The position of the first zero byte among the `remaining` bytes from a position on. -/
def zeroFrom? (bytes : ByteArray) (position : Nat) : (remaining : Nat) → Option Nat
  | 0 => none
  | remaining + 1 =>
    if bytes[position]? = some 0 then some position
    else zeroFrom? bytes (position + 1) remaining

/-- The bytes from an offset up to the zero byte that ends them. -/
def terminated? (bytes : ByteArray) (offset : Nat) : Option ByteArray :=
  (zeroFrom? bytes offset (bytes.size - offset)).map (bytes.extract offset)

end MemoryInspector.Binary
