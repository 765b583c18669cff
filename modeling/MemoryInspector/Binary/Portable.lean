import MemoryInspector.Binary.Coff

/-!
# Portable executables

Programs with the tables of COFF files behind headers of their own. A program is wanted at a base
address, to which all of its addresses are added. Its symbols may be missing or damaged.
-/

namespace MemoryInspector.Binary.Portable

/-- Where the headers start: the first header, which a mark opens, ends with that number. -/
def headersOffset : Reader Nat := do
  if (← Reader.number 2) ≠ 0x5A4D then failure
  Reader.skip 58
  Reader.number 4

/-- Addresses are wide or not by the number that opens the optional header. -/
def isWide? (bytes : ByteArray) : Option Bool := do
  let input : Input := ⟨bytes, .little, bytes.size⟩
  let (offset, _) ← headersOffset.runAt input 0
  let kind : Reader Nat := do
    if (← Reader.number 4) ≠ 0x4550 then failure
    Reader.skip 20
    let found ← Reader.number 2
    Reader.skip 94
    return found
  match (kind.runAt input offset).map (·.1) with
  | some 0x10B => some false
  | some 0x20B => some true
  | _ => none

/-- The optional header: the base address, and how many pairs of numbers end the header. -/
def optionalHeader (wide : Bool) : Reader (Nat × Nat) := do
  Reader.skip (if wide then 24 else 28)
  let imageBase ← Reader.word wide
  Reader.skip (if wide then 76 else 60)
  return (imageBase, ← Reader.number 4)

/-- The part of the file that holds a section of a program. -/
def fileRange (header : Coff.Section) : Nat × Nat :=
  (header.offset, min header.memorySize header.storedSize)

def readFile (wide : Bool) : Reader ObjectFile := do
  Reader.skip 4
  let (header, optionalSize) ← Coff.Header.read
  let start ← Reader.position
  let (imageBase, pairCount) ← optionalHeader wide
  let consumed := (← Reader.position) - start
  if optionalSize < consumed + 8 * pairCount then failure
  Reader.skip (optionalSize - consumed)
  let sections ← Reader.table header.sectionCount Coff.sectionSize Coff.Section.read
  let input ← read
  let table := (Coff.SymbolTable.read false header.symbolOffset header.symbolCount).runAt input 0
  return Coff.objectFile input.bytes imageBase fileRange sections
    ((table.map (·.1)).getD .empty)

def parse? (bytes : ByteArray) : Option ObjectFile := do
  let wide ← isWide? bytes
  let input : Input := ⟨bytes, .little, bytes.size⟩
  let (offset, _) ← headersOffset.runAt input 0
  ((readFile wide).runAt input offset).map (·.1)

end MemoryInspector.Binary.Portable
