/-!
# Canonical prefix codes

A code that gives every symbol a word of bits, none of which starts another. The lengths of the
words fix the code: words of one length are consecutive numbers in the order of their symbols, and
a longer word comes after every shorter one.
-/

namespace MemoryInspector.Compression

structure PrefixCode where
  /-- How many words there are of each length, from one bit on. -/
  counts : List Nat
  /-- The symbols by the length of their words, then by value. -/
  symbols : Array Nat
deriving Repr

namespace PrefixCode

/-- The longest words have this many bits. -/
def longest : Nat := 15

/-- The code with words of the given lengths for the symbols from zero on; a symbol of length zero
has no word. -/
def ofLengths (lengths : List Nat) : PrefixCode where
  counts := (List.range longest).map fun n ↦ lengths.count (n + 1)
  symbols := ((List.range longest).flatMap fun n ↦
    (lengths.zipIdx.filter (·.1 == n + 1)).map (·.2)).toArray

/-- The part of all words of the longest length that the code takes up, counted in such words. -/
def weight (counts : List Nat) : Nat := counts.foldl (fun n count ↦ 2 * n + count) 0

/-- Every sequence of bits starts with a word of the code. -/
def IsComplete (code : PrefixCode) : Prop := weight code.counts = 1 <<< code.counts.length

instance (code : PrefixCode) : Decidable code.IsComplete := inferInstanceAs (Decidable (_ = _))

/-- Find the word at the front of a stream of bits. `first` is the least word of the current length,
and `index` the number of shorter words. -/
def decodeFrom {m : Type → Type} [Monad m] (nextBit : m Nat) (code : PrefixCode) :
    (counts : List Nat) → (word first index : Nat) → m (Option Nat)
  | [], _, _, _ => return none
  | count :: rest, word, first, index => do
    let word := word + (← nextBit)
    if word < first + count then return code.symbols[index + (word - first)]?
    else decodeFrom nextBit code rest (2 * word) (2 * (first + count)) (index + count)

/-- The symbol of the word at the front of a stream of bits, if there is such a word. -/
def decode {m : Type → Type} [Monad m] (nextBit : m Nat) (code : PrefixCode) : m (Option Nat) :=
  decodeFrom nextBit code code.counts 0 0 0

end PrefixCode

end MemoryInspector.Compression
