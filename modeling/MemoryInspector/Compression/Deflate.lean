import MemoryInspector.Compression.NumberClass
import MemoryInspector.Compression.PrefixCode

/-!
# Deflated data

Data as a sequence of blocks, each either stored or written with prefix codes for bytes and for
copies of what was written before. Whoever expands the data knows its size: expanding stops where
one byte more would follow.
-/

namespace MemoryInspector.Compression

/-- Why expanding stops before the last block ends. -/
inductive Deflate.Stop where
  | malformed
  /-- The data is longer than it may be. -/
  | full
deriving DecidableEq, Repr

structure Deflate.Progress where
  /-- The number of bits that have been read. -/
  position : Nat
  output : ByteArray

structure Deflate.Source where
  bytes : ByteArray
  /-- The greatest size of the data. -/
  capacity : Nat

abbrev Deflate := ReaderT Deflate.Source (ExceptT Deflate.Stop (StateM Deflate.Progress))

namespace Deflate

/-! ## Bits and bytes -/

def bit : Deflate Nat := do
  let position := (← get).position
  match (← read).bytes[position / 8]? with
  | some b =>
    modify fun progress ↦ { progress with position := position + 1 }
    return (b.toNat >>> (position % 8)) % 2
  | none => throw .malformed

/-- A number of some bits, the lowest one first. -/
def bits : (count : Nat) → Deflate Nat
  | 0 => return 0
  | count + 1 => do
    let lowest ← bit
    return lowest + 2 * (← bits count)

/-- Skip to the start of a byte. -/
def align : Deflate Unit :=
  modify fun progress ↦ { progress with position := (progress.position + 7) / 8 * 8 }

/-- Stop if no byte may follow. -/
def checkRoom : Deflate Unit := do
  if (← get).output.size < (← read).capacity then return () else throw .full

def write (b : UInt8) : Deflate Unit := do
  checkRoom
  modify fun progress ↦ { progress with output := progress.output.push b }

/-- Write again the bytes from a distance back. -/
def copy (distance : Nat) : (count : Nat) → Deflate Unit
  | 0 => return ()
  | count + 1 => do
    let output := (← get).output
    match output[output.size - distance]? with
    | some b => write b
    | none => throw .malformed
    copy distance count

def symbol (code : PrefixCode) : Deflate Nat := do
  match ← code.decode bit with
  | some found => return found
  | none => throw .malformed

/-! ## Stored blocks -/

def storedBytes : (count : Nat) → Deflate Unit
  | 0 => return ()
  | count + 1 => do
    checkRoom
    write (UInt8.ofNat (← bits 8))
    storedBytes count

/-- A stored block gives its length twice, the second time with all bits inverted. -/
def storedBlock : Deflate Unit := do
  align
  let count ← bits 16
  let inverted ← bits 16
  if count + inverted = 0xFFFF then storedBytes count else throw .malformed

/-! ## Coded blocks -/

/-- The lengths of copies, by symbol from 257 on. The greatest one has a symbol of its own. -/
def lengthClasses : List NumberClass :=
  NumberClass.consecutive 3 [0, 0, 0, 0, 0, 0, 0, 0, 1, 1, 1, 1, 2, 2, 2, 2, 3, 3, 3, 3, 4, 4, 4, 4,
    5, 5, 5, 5] ++ [⟨258, 0⟩]

def distanceClasses : List NumberClass :=
  NumberClass.consecutive 1 [0, 0, 0, 0, 1, 1, 2, 2, 3, 3, 4, 4, 5, 5, 6, 6, 7, 7, 8, 8, 9, 9, 10,
    10, 11, 11, 12, 12, 13, 13]

/-- A number of the class with that index. -/
def numberOf (table : List NumberClass) (index : Nat) : Deflate Nat := do
  match table[index]? with
  | some ⟨least, width⟩ => return least + (← bits width)
  | none => throw .malformed

/-- Expand what is written in two codes, up to the symbol that ends a block. -/
def codedSymbols (literals distances : PrefixCode) : (limit : Nat) → Deflate Unit
  | 0 => throw .malformed
  | limit + 1 => do
    let found ← symbol literals
    if found = 256 then return ()
    else if found < 256 then write (UInt8.ofNat found)
    else
      let count ← numberOf lengthClasses (found - 257)
      let distance ← numberOf distanceClasses (← symbol distances)
      if (← get).output.size < distance then throw .malformed
      copy distance count
    codedSymbols literals distances limit

def fixedLiterals : PrefixCode :=
  .ofLengths (List.replicate 144 8 ++ List.replicate 112 9 ++ List.replicate 24 7 ++
    List.replicate 8 8)

def fixedDistances : PrefixCode := .ofLengths (List.replicate 32 5)

/-- The order in which the lengths of the code for lengths are given. -/
def lengthOrder : List Nat := [16, 17, 18, 0, 8, 7, 9, 6, 10, 5, 11, 4, 12, 3, 13, 2, 14, 1, 15]

/-- The lengths of words, `count` of them in all. Some symbols repeat the last length or zero. -/
def wordLengths (code : PrefixCode) : (limit count : Nat) → (known : List Nat) → Deflate (List Nat)
  | 0, _, _ => throw .malformed
  | limit + 1, count, known => do
    if known.length = count then return known
    else
      let found ← symbol code
      if found < 16 then wordLengths code limit count (known ++ [found])
      else
        let (value, least, width) ← match found, known.getLast? with
          | 16, some last => pure (last, 3, 2)
          | 16, none => throw .malformed
          | 17, _ => pure (0, 3, 3)
          | _, _ => pure (0, 11, 7)
        let repeated := known ++ List.replicate (least + (← bits width)) value
        if count < repeated.length then throw .malformed
        wordLengths code limit count repeated

/-- A code may leave no sequence of bits without a meaning, unless it has at most one word. -/
def usableCode (lengths : List Nat) : Deflate PrefixCode := do
  let code := PrefixCode.ofLengths lengths
  if code.IsComplete ∨ code.symbols.size ≤ 1 then return code else throw .malformed

/-- The codes for literals and for distances that a block brings with it. -/
def readCodes : Deflate (PrefixCode × PrefixCode) := do
  let literalCount := 257 + (← bits 5)
  let distanceCount := 1 + (← bits 5)
  let lengthCount := 4 + (← bits 4)
  if 286 < literalCount ∨ 30 < distanceCount then throw .malformed
  let given ← (lengthOrder.take lengthCount).mapM fun position ↦ do return (position, ← bits 3)
  let lengthCode := PrefixCode.ofLengths ((List.range 19).map fun n ↦ (given.lookup n).getD 0)
  if !lengthCode.IsComplete then throw .malformed
  let count := literalCount + distanceCount
  let lengths ← wordLengths lengthCode (count + 1) count []
  return (← usableCode (lengths.take literalCount), ← usableCode (lengths.drop literalCount))

/-! ## Sequences of blocks -/

/-- Expand blocks up to the last one. -/
def blocks : (limit : Nat) → Deflate Unit
  | 0 => throw .malformed
  | limit + 1 => do
    let isLast ← bit
    match ← bits 2 with
    | 0 => storedBlock
    | 1 => codedSymbols fixedLiterals fixedDistances (limit + 1)
    | 2 =>
      let (literals, distances) ← readCodes
      codedSymbols literals distances (limit + 1)
    | _ => throw .malformed
    if isLast = 1 then return () else blocks limit

end Deflate

end MemoryInspector.Compression
