/-!
# Sets of characters

Sets of code points as lists of ranges. The ranges of a set are in order and apart from each other,
so that a set has one form only. The complement of a set is taken among the code points that are
characters; surrogates are none.
-/

namespace MemoryInspector.Pattern

/-- The code points from `least` to `greatest`. -/
structure CodeRange where
  least : Nat
  greatest : Nat
deriving DecidableEq, Repr

structure CodePoints where
  ranges : List CodeRange
deriving DecidableEq, Repr

namespace CodePoints

def empty : CodePoints := ⟨[]⟩

def range (least greatest : Nat) : CodePoints := ⟨[⟨least, greatest⟩]⟩

def single (n : Nat) : CodePoints := range n n

def contains (a : CodePoints) (n : Nat) : Bool :=
  a.ranges.any fun r ↦ r.least ≤ n && n ≤ r.greatest

/-- Join ranges that overlap or touch, from the first on; the ranges are in order. -/
def join (first : CodeRange) : List CodeRange → List CodeRange
  | [] => [first]
  | next :: rest =>
    if next.least ≤ first.greatest + 1 then
      join ⟨first.least, max first.greatest next.greatest⟩ rest
    else first :: join next rest

/-- The set that ranges in any order cover. -/
def ofRanges (ranges : List CodeRange) : CodePoints :=
  match ranges.mergeSort fun r s ↦ r.least ≤ s.least with
  | [] => empty
  | first :: rest => ⟨join first rest⟩

def union (a b : CodePoints) : CodePoints := ofRanges (a.ranges ++ b.ranges)

/-- The greatest code point. -/
def greatest : Nat := 0x10FFFF

/-- The code points from `start` on that are in none of the ranges, which are in order. -/
def gaps (start : Nat) : List CodeRange → List CodeRange
  | [] => if start ≤ greatest then [⟨start, greatest⟩] else []
  | next :: rest =>
    if start < next.least then ⟨start, next.least - 1⟩ :: gaps (next.greatest + 1) rest
    else gaps (next.greatest + 1) rest

/-- Code points that are no characters. -/
def surrogates : CodePoints := range 0xD800 0xDFFF

def complement (a : CodePoints) : CodePoints := ⟨gaps 0 (union a surrogates).ranges⟩

def all : CodePoints := complement empty

def intersection (a b : CodePoints) : CodePoints := complement (union (complement a) (complement b))

def difference (a b : CodePoints) : CodePoints := complement (union (complement a) b)

def symmetricDifference (a b : CodePoints) : CodePoints :=
  difference (union a b) (intersection a b)

/-- The only member of a set, if it has just one. -/
def singleton? (a : CodePoints) : Option Nat :=
  match a.ranges with
  | [r] => if r.least = r.greatest then some r.least else none
  | _ => none

def isEmpty (a : CodePoints) : Bool := a.ranges.isEmpty

/-- All members are below 128. -/
def isAscii (a : CodePoints) : Bool := a.ranges.all (·.greatest < 128)

example : (union (range 5 9) (union (single 3) (range 10 12))).ranges = [⟨3, 3⟩, ⟨5, 12⟩] := by
  cbv

example : (complement (range 0x20 0x10FFFF)).ranges = [⟨0, 0x1F⟩] := by cbv

example : (intersection (range 1 8) (complement (single 4))).ranges = [⟨1, 3⟩, ⟨5, 8⟩] := by
  cbv

end CodePoints

end MemoryInspector.Pattern
