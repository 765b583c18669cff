import MemoryInspector.Compression.NumberClass
import MemoryInspector.Compression.WeightCode

/-!
# Zstandard frames

Data as frames, each of which is a sequence of blocks. A block is stored, or repeats one byte, or
holds literals in a prefix code and, in state codes, the places where they go between copies of what
was written before. Codes and the distances of copies can be those of the block before.
-/

namespace MemoryInspector.Compression

/-- What a frame is expanded with. -/
structure Zstandard where
  output : ByteArray := .empty
  literalCode : Option WeightCode := none
  countCode : Option StateCode := none
  distanceCode : Option StateCode := none
  lengthCode : Option StateCode := none
  /-- The last three distances that differ, the latest first. -/
  recent : Nat × Nat × Nat := (1, 4, 8)

namespace Zstandard

/-- The number that bytes make up, the lowest first. -/
def number? (bytes : ByteArray) (start count : Nat) : Option Nat :=
  if start + count ≤ bytes.size then some (bitsAt bytes (8 * start) (8 * count)) else none

/-- The bytes of a part. -/
def part? (bytes : ByteArray) (start count : Nat) : Option ByteArray :=
  if start + count ≤ bytes.size then some (bytes.extract start (start + count)) else none

def rest (bytes : ByteArray) (start : Nat) : ByteArray := bytes.extract start bytes.size

def repeated (b : UInt8) (count : Nat) : ByteArray := ⟨Array.replicate count b⟩

/-! ## Literals -/

/-- Literals in the current prefix code, in one stream or in four with their sizes in front. -/
def codedLiterals? (code : WeightCode) (bytes : ByteArray) (inFour : Bool) : Option ByteArray := do
  if inFour then
    let first ← number? bytes 0 2
    let second ← number? bytes 2 2
    let third ← number? bytes 4 2
    let streams := [← part? bytes 6 first, ← part? bytes (6 + first) second,
      ← part? bytes (6 + first + second) third, rest bytes (6 + first + second + third)]
    return (← streams.mapM code.expand?).foldl (· ++ ·) ByteArray.empty
  else code.expand? bytes

/-- The literals of a block, and the number of the bytes for them. -/
def literals (bytes : ByteArray) : StateT Zstandard Option (ByteArray × Nat) := do
  let first ← number? bytes 0 1
  let form := first / 4 % 4
  if first % 4 < 2 then
    let (count, header) ← match form with
      | 1 => do pure ((← number? bytes 0 2) / 16, 2)
      | 3 => do pure ((← number? bytes 0 3) / 16, 3)
      | _ => pure (first / 8, 1)
    if first % 4 = 0 then return (← part? bytes header count, header + count)
    else return (repeated (← bytes[header]?) count, header + 1)
  else
    let (width, header) := match form with
      | 0 | 1 => (10, 3)
      | 2 => (14, 4)
      | _ => (18, 5)
    let sizes := (← number? bytes 0 header) / 16
    let count := sizes % (1 <<< width)
    let size := sizes / (1 <<< width)
    let coded ← part? bytes header size
    let coded ←
      if first % 4 = 2 then do
        let (code, used) ← WeightCode.read? coded
        modify fun frame ↦ { frame with literalCode := some code }
        pure (rest coded used)
      else pure coded
    let literals ← codedLiterals? (← (← get).literalCode) coded (form != 0)
    if literals.size ≠ count then failure
    return (literals, header + size)

/-! ## Copies -/

/-- How many literals come before a copy. -/
def countClasses : List NumberClass :=
  NumberClass.consecutive 0 (List.replicate 16 0 ++
    [1, 1, 1, 1, 2, 2, 3, 3, 4, 6, 7, 8, 9, 10, 11, 12, 13, 14, 15, 16])

/-- The lengths of copies. -/
def lengthClasses : List NumberClass :=
  NumberClass.consecutive 3 (List.replicate 32 0 ++
    [1, 1, 1, 1, 2, 2, 3, 3, 4, 4, 5, 7, 8, 9, 10, 11, 12, 13, 14, 15, 16])

/-- The numbers for distances. -/
def distanceClasses : List NumberClass := NumberClass.consecutive 1 (List.range 32)

def presetCode (accuracy : Nat) (counts : List Nat) (rare : Nat) : StateCode :=
  .ofFrequencies accuracy (counts.map .times ++ List.replicate rare .rare)

/-- The code for the numbers of literals in blocks that bring none. -/
def presetCounts : StateCode :=
  presetCode 6 [4, 3, 2, 2, 2, 2, 2, 2, 2, 2, 2, 2, 2, 1, 1, 1, 2, 2, 2, 2, 2, 2, 2, 2, 2, 3, 2, 1, 1,
    1, 1, 1] 4

def presetLengths : StateCode :=
  presetCode 6 ([1, 4, 3, 2, 2, 2, 2, 2, 2] ++ List.replicate 37 1) 7

def presetDistances : StateCode :=
  presetCode 5 [1, 1, 1, 1, 1, 1, 2, 2, 2, 1, 1, 1, 1, 1, 1, 1, 1, 1, 1, 1, 1, 1, 1, 1] 5

/-- The code of a block, and the number of the bytes for it: the preset one, that of a single
symbol, one that is described, or the one of the block before. -/
def code? (mode : Nat) (bytes : ByteArray) (start : Nat) (preset : StateCode)
    (known : Option StateCode) (greatestAccuracy symbols : Nat) : Option (StateCode × Nat) :=
  match mode with
  | 0 => some (preset, 0)
  | 1 => (number? bytes start 1).map fun symbol ↦ (.single symbol, 1)
  | 2 => StateCode.read? (rest bytes start) greatestAccuracy symbols
  | _ => known.map (·, 0)

/-- A copy with the literals before it. -/
structure Copy where
  count : Nat
  /-- A distance, or one of the recent distances if it is at most three. -/
  distance : Nat
  length : Nat

/-- The number of a class with further bits. -/
def classNumber (classes : List NumberClass) (symbol : Nat) : BackwardReader Nat := do
  let ⟨least, width⟩ ← classes[symbol]?
  return least + (← .bits width)

/-- The copies of a block, from the states of the three codes on. -/
def copies (counts distances lengths : StateCode) : (number : Nat) →
    (count distance length : Nat) → BackwardReader (List Copy)
  | 0, _, _, _ => return []
  | number + 1, count, distance, length => do
    let copyDistance ← classNumber distanceClasses (← distances.symbol distance)
    let copyLength ← classNumber lengthClasses (← lengths.symbol length)
    let copyCount ← classNumber countClasses (← counts.symbol count)
    let copy : Copy := ⟨copyCount, copyDistance, copyLength⟩
    if number = 0 then return [copy]
    let count ← counts.next count
    let length ← lengths.next length
    let distance ← distances.next distance
    return copy :: (← copies counts distances lengths number count distance length)

/-- The number of copies in a block, and the number of the bytes that give it. -/
def copyCount? (bytes : ByteArray) : Option (Nat × Nat) := do
  let first ← number? bytes 0 1
  if first < 128 then return (first, 1)
  else if first < 255 then return ((first - 128) * 256 + (← number? bytes 1 1), 2)
  else return ((← number? bytes 1 2) + 0x7F00, 3)

/-- All copies of a block. They take up all bits. -/
def readCopies (bytes : ByteArray) : StateT Zstandard Option (List Copy) := do
  let (number, header) ← copyCount? bytes
  if number = 0 then
    if bytes.size = header then return [] else failure
  let modes ← number? bytes header 1
  let frame ← get
  let position := header + 1
  let (counts, used) ← code? (modes / 64) bytes position presetCounts frame.countCode 9 36
  let position := position + used
  let (distances, used) ←
    code? (modes / 16 % 4) bytes position presetDistances frame.distanceCode 8 32
  let position := position + used
  let (lengths, used) ← code? (modes / 4 % 4) bytes position presetLengths frame.lengthCode 9 53
  set { frame with
    countCode := some counts, distanceCode := some distances, lengthCode := some lengths }
  let source ← BackwardBits.ofBytes? (rest bytes (position + used))
  let work : BackwardReader (List Copy) := do
    let count ← counts.start
    let distance ← distances.start
    let length ← lengths.start
    copies counts distances lengths number count distance length
  let (found, source) ← work.run source
  if source.remaining = 0 then return found else failure

/-- The distance of a copy, and the recent distances after it. If no literals come before the copy,
then the latest distance cannot be meant, and the ones to choose from change accordingly. -/
def resolve (recent : Nat × Nat × Nat) (copy : Copy) : Nat × (Nat × Nat × Nat) :=
  let (first, second, third) := recent
  match copy.distance, copy.count with
  | 1, 0 => (second, second, first, third)
  | 2, 0 => (third, third, first, second)
  | 3, 0 => (first - 1, first - 1, first, second)
  | 1, _ => (first, first, second, third)
  | 2, _ => (second, second, first, third)
  | 3, _ => (third, third, first, second)
  | number, _ => (number - 3, number - 3, first, second)

/-- Write again the bytes from a distance back. -/
def again (distance : Nat) : (count : Nat) → ByteArray → ByteArray
  | 0, output => output
  | count + 1, output =>
    again distance count (output.push (output[output.size - distance]?.getD 0))

/-- Put literals between copies. Literals that are left come last. -/
def writeCopies (literals : ByteArray) : (position : Nat) → List Copy → StateT Zstandard Option Unit
  | position, [] => modify fun frame ↦
      { frame with output := frame.output ++ rest literals position }
  | position, copy :: others => do
    let before ← part? literals position copy.count
    let frame ← get
    let (distance, recent) := resolve frame.recent copy
    let output := frame.output ++ before
    if distance = 0 ∨ output.size < distance then failure
    set { frame with output := again distance copy.length output, recent }
    writeCopies literals (position + copy.count) others

/-! ## Blocks and frames -/

/-- No block is larger than this. -/
def blockLimit : Nat := 128 * 1024

def write (bytes : ByteArray) : StateT Zstandard Option Unit :=
  modify fun frame ↦ { frame with output := frame.output ++ bytes }

/-- Expand a block, and get the position after it and whether it is the last one. -/
def block (bytes : ByteArray) (start : Nat) : StateT Zstandard Option (Nat × Bool) := do
  let header ← number? bytes start 3
  let size := header / 8
  if blockLimit < size then failure
  let isLast := header % 2 == 1
  let start := start + 3
  match header / 2 % 4 with
  | 0 =>
    write (← part? bytes start size)
    return (start + size, isLast)
  | 1 =>
    write (repeated (← bytes[start]?) size)
    return (start + 1, isLast)
  | 2 =>
    let contents ← part? bytes start size
    let (literals, used) ← literals contents
    writeCopies literals 0 (← readCopies (rest contents used))
    return (start + size, isLast)
  | _ => failure

/-- Expand blocks up to the last one, and get the position after it. The data may not get larger
than a size. -/
def blocks (bytes : ByteArray) (size : Nat) : (limit start : Nat) → StateT Zstandard Option Nat
  | 0, _ => failure
  | limit + 1, start => do
    let (next, isLast) ← block bytes start
    if size < (← get).output.size then failure
    if isLast then return next else blocks bytes size limit next

/-- No more than this of what was written may be kept for copies. -/
def windowLimit : Nat := 100 * 1024 * 1024

/-- The size of the window in a frame whose header gives it as an exponent and eighths. -/
def windowSize (b : Nat) : Nat :=
  let base := 1 <<< (10 + b / 8)
  base + base / 8 * (b % 8)

/-- The position behind the header of a frame, and whether a checksum follows the blocks. A frame
that needs a dictionary cannot be expanded. -/
def header? (bytes : ByteArray) (start : Nat) : Option (Nat × Bool) := do
  let flags ← number? bytes start 1
  let isSingle := flags / 32 % 2 = 1
  let position := start + 1
  let (window?, position) ←
    if isSingle then pure (none, position)
    else pure (some (windowSize (← number? bytes position 1)), position + 1)
  let width := [0, 1, 2, 4].getD (flags % 4) 0
  let dictionary ← number? bytes position width
  let position := position + width
  let width := if flags / 64 = 0 then (if isSingle then 1 else 0) else 1 <<< (flags / 64)
  let given ← number? bytes position width
  let window := window?.getD (if width = 2 then given + 256 else given)
  if dictionary ≠ 0 ∨ windowLimit < window then failure
  return (position + width, flags / 4 % 2 = 1)

/-- Expand frames one after another. Some frames hold no data and are passed over. -/
def frames (bytes : ByteArray) (size : Nat) : (limit start : Nat) → ByteArray → Option ByteArray
  | 0, _, _ => none
  | limit + 1, start, output => do
    if start = bytes.size then return output
    let mark ← number? bytes start 4
    if mark / 16 = 0x184D2A5 then
      let length ← number? bytes (start + 4) 4
      let next := start + 8 + length
      if bytes.size < next then failure
      frames bytes size limit next output
    else if mark = 0xFD2FB528 then
      let (position, hasChecksum) ← header? bytes (start + 4)
      let (next, frame) ← (blocks bytes (size - output.size) (bytes.size + 1) position).run {}
      let next := if hasChecksum then next + 4 else next
      if bytes.size < next then failure
      frames bytes size limit next (output ++ frame.output)
    else failure

/-- Expand frames to data of a known size. -/
def expand? (bytes : ByteArray) (size : Nat) : Option ByteArray := do
  let output ← frames bytes size (bytes.size + 1) 0 .empty
  if output.size = size then return output else failure

end Zstandard

end MemoryInspector.Compression
