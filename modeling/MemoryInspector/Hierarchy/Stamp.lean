import MemoryInspector.Text.Numeral

/-!
# Visit stamps

The marker that a traversal leaves at a node, a pair of numbers. It is shown as the two
hexadecimal numerals back to back.
-/

namespace MemoryInspector.Hierarchy

open Text

structure Stamp where
  seconds : Int
  nanoseconds : Int
deriving DecidableEq, Repr

def Stamp.text (stamp : Stamp) : String := signedHex stamp.seconds ++ signedHex stamp.nanoseconds

example : (Stamp.mk 255 (-16)).text = "ff-10" := by decide

end MemoryInspector.Hierarchy
