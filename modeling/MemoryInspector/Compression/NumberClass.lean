/-!
# Classes of numbers

Numbers that are written as a symbol and further bits: the symbol stands for a class of numbers, and
the bits tell those of a class apart.
-/

namespace MemoryInspector.Compression

structure NumberClass where
  least : Nat
  /-- How many bits tell the numbers of the class apart. -/
  width : Nat
deriving DecidableEq, Repr

/-- Classes of given widths, each of which starts where the one before it ends. -/
def NumberClass.consecutive (least : Nat) : (widths : List Nat) → List NumberClass
  | [] => []
  | width :: rest => ⟨least, width⟩ :: consecutive (least + (1 <<< width)) rest

end MemoryInspector.Compression
