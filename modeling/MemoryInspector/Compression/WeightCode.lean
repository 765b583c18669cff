import MemoryInspector.Compression.StateCode

/-!
# Prefix codes by weights

Prefix codes that are given by the weights of symbols. A symbol takes up a share of all sequences of
bits that doubles with each step of its weight; weight zero is that of a symbol without a word.
Shares follow each other by weight and then by symbol.
-/

namespace MemoryInspector.Compression

structure WeightCode where
  /-- The length of the longest words. -/
  depth : Nat
  /-- For all sequences of so many bits the symbol at their front and the length of its word. -/
  cells : Array (Nat × Nat)
deriving Repr

namespace WeightCode

/-- Words are no longer than this. -/
def longest : Nat := 11

/-- The share of a weight. -/
def share (weight : Nat) : Nat := if weight = 0 then 0 else 1 <<< (weight - 1)

/-- The code with some weights. The last symbol has the weight that makes the shares complete. -/
def ofWeights? (weights : List Nat) : Option WeightCode := do
  let given := weights.foldl (fun total weight ↦ total + share weight) 0
  if given = 0 then failure
  let depth := given.log2 + 1
  let missing := (1 <<< depth) - given
  if missing ≠ 1 <<< missing.log2 ∨ longest < depth then failure
  let all := (weights ++ [missing.log2 + 1]).zipIdx
  let cells := (List.range depth).flatMap fun n ↦
    (all.filter (·.1 == n + 1)).flatMap fun (weight, symbol) ↦
      List.replicate (share weight) (symbol, depth - n)
  return ⟨depth, cells.toArray⟩

/-- Weights of four bits each, the higher half of a byte first. -/
def plainWeights (bytes : ByteArray) (count : Nat) : List Nat :=
  (List.range count).map fun n ↦
    let b := (bytes[n / 2]?.getD 0).toNat
    if n % 2 = 0 then b / 16 else b % 16

/-- Weights in a state code, from two states by turns until no bits are left. -/
def codedWeights (code : StateCode) : (limit current other : Nat) → BackwardReader (List Nat)
  | 0, _, _ => failure
  | limit + 1, current, other => do
    let weight ← code.symbol current
    let current ← code.next current
    if (← get).remaining < 0 then return [weight, ← code.symbol other]
    else return weight :: (← codedWeights code limit other current)

/-- The code that bytes describe, with the number of the bytes for it. The first one tells how the
weights are given. -/
def read? (bytes : ByteArray) : Option (WeightCode × Nat) := do
  let first := (← bytes[0]?).toNat
  if 128 ≤ first then
    let count := first - 127
    let size := 1 + (count + 1) / 2
    if bytes.size < size then failure
    return (← ofWeights? (plainWeights (bytes.extract 1 size) count), size)
  else
    if bytes.size < 1 + first then failure
    let coded := bytes.extract 1 (1 + first)
    let (code, used) ← StateCode.read? coded 6 256
    let source ← BackwardBits.ofBytes? (coded.extract used coded.size)
    let work : BackwardReader (List Nat) := do
      let current ← code.start
      let other ← code.start
      codedWeights code 256 current other
    let (weights, _) ← work.run source
    if 255 < weights.length then failure
    return (← ofWeights? weights, 1 + first)

/-- The symbols of all words up to the last bit. -/
def symbols? (code : WeightCode) : (limit : Nat) → BackwardBits → ByteArray → Option ByteArray
  | 0, _, _ => none
  | limit + 1, source, known => do
    if source.remaining = 0 then return known
    if source.remaining < 0 then failure
    let (symbol, width) ← code.cells[source.peek code.depth]?
    symbols? code limit (source.drop width) (known.push (UInt8.ofNat symbol))

/-- Expand bytes to the symbols that they spell, from the end on. -/
def expand? (code : WeightCode) (bytes : ByteArray) : Option ByteArray := do
  symbols? code (8 * bytes.size + 1) (← BackwardBits.ofBytes? bytes) .empty

end WeightCode

end MemoryInspector.Compression
