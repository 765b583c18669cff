import MemoryInspector.Binary.ObjectFile

/-!
# XCOFF files

Object files in the order of bytes with the highest one first. They tell of no segments, and the
names of their sections are too short for debug information; what counts is that their tables lie
inside the file, and their symbols.
-/

namespace MemoryInspector.Binary.Xcoff

def sectionSize (wide : Bool) : Nat := if wide then 72 else 40
def symbolSize : Nat := 18

structure Header where
  sectionCount : Nat
  symbolOffset : Nat
  symbolCount : Nat
  optionalSize : Nat

def Header.read (wide : Bool) : Reader Header := do
  Reader.skip 2
  let sectionCount ← Reader.number 2
  Reader.skip 4
  let symbolOffset ← Reader.word wide
  if wide then
    let optionalSize ← Reader.number 2
    Reader.skip 2
    return ⟨sectionCount, symbolOffset, ← Reader.number 4, optionalSize⟩
  else
    let symbolCount ← Reader.number 4
    let optionalSize ← Reader.number 2
    Reader.skip 2
    return ⟨sectionCount, symbolOffset, symbolCount, optionalSize⟩

structure Section where
  name : ByteArray
  size : Nat
  offset : Nat
  /-- The section takes no space in the file. -/
  isUninitialized : Bool

def Section.read (wide : Bool) : Reader Section := do
  let name ← Reader.bytes 8
  let _ ← Reader.word wide
  let _ ← Reader.word wide
  let size ← Reader.word wide
  let offset ← Reader.word wide
  Reader.skip (if wide then 24 else 12)
  let flags ← Reader.number 4
  if wide then Reader.skip 4
  return ⟨fixedText name, size, offset, (flags / 0x80) % 2 == 1⟩

structure SymbolRecord where
  name : Option String
  address : Nat
  sectionNumber : Nat
  storage : Nat
  auxiliaries : Nat
  /-- The position of the record in the file. -/
  position : Nat

def SymbolRecord.read (wide : Bool) (strings : ByteArray) : Reader SymbolRecord := do
  let position ← Reader.position
  let common (name : Option String) (address : Nat) : Reader SymbolRecord := do
    let sectionNumber ← Reader.number 2
    Reader.skip 2
    return ⟨name, address, sectionNumber, ← Reader.number 1, ← Reader.number 1, position⟩
  if wide then
    let address ← Reader.number 8
    common (textAt? strings (← Reader.number 4)) address
  else
    let field ← Reader.bytes 8
    let name := if field[0]? = some 0 then (number? .big field 4 4).bind (textAt? strings)
      else String.fromUTF8? (fixedText field)
    common name (← Reader.number 4)

def primaryRecords : List SymbolRecord → List SymbolRecord
  | [] => []
  | first :: rest => first :: primaryRecords (rest.drop first.auxiliaries)
termination_by records => records.length
decreasing_by
  simp only [List.length_drop, List.length_cons]
  omega

/-- The record that tells what a symbol is: the last of those that belong to it, as the type of the
symbol and the class of what holds it. In wide files the record is marked. The table ends where
`file` does. -/
def holder? (wide : Bool) (file : Input) (record : SymbolRecord) : Option (Nat × Nat) := do
  guard ([2, 107, 111].contains record.storage ∧ 0 < record.auxiliaries)
  let position := record.position + record.auxiliaries * symbolSize
  guard (position + symbolSize ≤ file.stop)
  let mark ← number? .big file.bytes (position + 17) 1
  guard (!wide || mark = 251)
  let type ← number? .big file.bytes (position + 10) 1
  let held ← number? .big file.bytes (position + 11) 1
  some (type % 8, held)

def SymbolRecord.symbol (wide : Bool) (file : Input) (record : SymbolRecord) : Symbol :=
  let kind : SymbolKind := match holder? wide file record with
    | some (1, held) | some (3, held) =>
      if [0, 6].contains held then .text
      else if [1, 3, 5, 9, 10, 15, 16].contains held then .data
      else .other
    | some (2, _) => .text
    | _ => .other
  ⟨record.name, kind, !([2, 111].contains record.storage && record.sectionNumber == 0),
    record.address⟩

/-- The symbols at an offset, which is zero where there are none, and the strings that follow them.
The strings start with their size, which counts itself. -/
def symbols (wide : Bool) (offset count : Nat) : Reader (List Symbol) :=
  if offset = 0 then return []
  else fun input ↦ do
    let stringsOffset := offset + count * symbolSize
    let (size, _) ← (Reader.number 4).runAt input stringsOffset
    let strings := textTable input.bytes stringsOffset size
    let (records, _) ←
      (Reader.table count symbolSize (SymbolRecord.read wide strings)).runAt input offset
    return (primaryRecords records).map (·.symbol wide { input with stop := stringsOffset })

def readFile (wide : Bool) : Reader ObjectFile := do
  let header ← Header.read wide
  Reader.skip header.optionalSize
  let sections ← Reader.table header.sectionCount (sectionSize wide) (Section.read wide)
  let symbols ← symbols wide header.symbolOffset header.symbolCount
  let bytes := (← read).bytes
  return ⟨.big, [], symbols, fun name ↦
    ((sections.find? (·.name.data == name.toUTF8.data)).bind fun header ↦
      if header.isUninitialized then some .empty else slice? bytes header.offset header.size).getD
        .empty⟩

def parse? (wide : Bool) (bytes : ByteArray) : Option ObjectFile :=
  ((readFile wide).runAt ⟨bytes, .big, bytes.size⟩ 0).map (·.1)

end MemoryInspector.Binary.Xcoff
