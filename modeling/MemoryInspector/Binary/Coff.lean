import MemoryInspector.Binary.ObjectFile

/-!
# COFF files

Object files of relocatable code, whose tables programs share: sections, which are also segments,
and symbols with the strings behind them. A large variety has wider counts.
-/

namespace MemoryInspector.Binary.Coff

structure Section where
  /-- A field of eight bytes. -/
  name : ByteArray
  memorySize : Nat
  address : Nat
  storedSize : Nat
  offset : Nat
  /-- The section takes no space in the file. -/
  isUninitialized : Bool

def Section.read : Reader Section := do
  let name ← Reader.bytes 8
  let memorySize ← Reader.number 4
  let address ← Reader.number 4
  let storedSize ← Reader.number 4
  let offset ← Reader.number 4
  Reader.skip 12
  let flags ← Reader.number 4
  return ⟨name, memorySize, address, storedSize, offset, (flags / 0x80) % 2 == 1⟩

def sectionSize : Nat := 40

/-- Uses of symbols that matter here. -/
inductive StorageClass where
  | external
  | static
  | label
  | weakExternal
  | other
deriving DecidableEq, Repr

def StorageClass.ofCode : Nat → StorageClass
  | 2 => external
  | 3 => static
  | 6 => label
  | 0x69 => weakExternal
  | _ => other

structure SymbolRecord where
  /-- A field of eight bytes. -/
  name : ByteArray
  value : Nat
  /-- The number of a section, from one on; zero for none, and nothing for a special number. -/
  sectionNumber? : Option Nat
  type : Nat
  storage : StorageClass
  /-- How many records after this one belong to it. -/
  auxiliaries : Nat

/-- A record; in the large variety the number of the section takes four bytes. -/
def SymbolRecord.read (large : Bool) : Reader SymbolRecord := do
  let name ← Reader.bytes 8
  let value ← Reader.number 4
  let number ← Reader.number (if large then 4 else 2)
  let type ← Reader.number 2
  let storage ← Reader.number 1
  let auxiliaries ← Reader.number 1
  let special := if large then 0x80000000 else 0xFEFF
  return ⟨name, value, if number < special then some number else none, type, .ofCode storage,
    auxiliaries⟩

/-- The records that are no auxiliary ones. -/
def primaryRecords : List SymbolRecord → List SymbolRecord
  | [] => []
  | first :: rest => first :: primaryRecords (rest.drop first.auxiliaries)
termination_by records => records.length
decreasing_by
  simp only [List.length_drop, List.length_cons]
  omega

structure SymbolTable where
  records : List SymbolRecord
  strings : ByteArray

def SymbolTable.empty : SymbolTable := ⟨[], .empty⟩

/-- The symbols at an offset, which is zero where there are none, and the strings that follow them.
The strings start with their size, which counts itself. -/
def SymbolTable.read (large : Bool) (offset count : Nat) : Reader SymbolTable :=
  if offset = 0 then return .empty
  else fun input ↦ do
    let recordSize := if large then 20 else 18
    let (records, stringsOffset) ←
      (Reader.table count recordSize (SymbolRecord.read large)).runAt input offset
    let (size, _) ← (Reader.number 4).runAt input stringsOffset
    return ⟨primaryRecords records, textTable input.bytes stringsOffset size⟩

/-! ## Names -/

/-- The value of a digit of an offset in base 64. -/
def digit64? (b : UInt8) : Option Nat :=
  let c := Char.ofNat b.toNat
  if 'A' ≤ c ∧ c ≤ 'Z' then some (b.toNat - 65)
  else if 'a' ≤ c ∧ c ≤ 'z' then some (b.toNat - 71)
  else if c.isDigit then some (b.toNat + 4)
  else if c = '+' then some 62
  else if c = '/' then some 63
  else none

def digit10? (b : UInt8) : Option Nat :=
  if 48 ≤ b ∧ b ≤ 57 then some (b.toNat - 48) else none

/-- The number that all bytes spell. -/
def spelled? (base : Nat) (digit? : UInt8 → Option Nat) (bytes : List UInt8) : Option Nat :=
  bytes.foldlM (fun n b ↦ (digit? b).map (n * base + ·)) 0

/-- The name in a field, or at the offset that is written in it behind a slash, in base ten up to
a zero byte, or behind a second slash in base 64. -/
def sectionName? (strings field : ByteArray) : Option ByteArray :=
  match field.data.toList with
  | 47 :: 47 :: digits => do
    let offset ← spelled? 64 digit64? digits
    guard (offset < 4294967296)
    terminated? strings offset
  | 47 :: digits => do terminated? strings (← spelled? 10 digit10? (digits.takeWhile (· != 0)))
  | _ => some (fixedText field)

/-- The name in a field; a field that starts with a zero byte has an offset in its second half. -/
def symbolName? (strings field : ByteArray) : Option String :=
  if field[0]? = some 0 then do textAt? strings (← number? .little field 4 4)
  else String.fromUTF8? (fixedText field)

/-! ## Symbols -/

namespace SymbolRecord

def kind (record : SymbolRecord) : SymbolKind :=
  let typed : SymbolKind := if (record.type / 16) % 4 = 2 then .text else .data
  match record.storage with
  | .static => if 0 < record.auxiliaries ∧ record.type = 0 then .other else typed
  | .external | .weakExternal => typed
  | .label | .other => .other

def isDefined (record : SymbolRecord) : Bool :=
  !(record.storage == .external && record.sectionNumber? == some 0 && record.value == 0)

/-- The address of what a symbol names; zero where it has none. -/
def address (imageBase : Nat) (sections : List Section) (record : SymbolRecord) : Nat :=
  match record.storage, record.sectionNumber? with
  | .other, _ | _, none | _, some 0 => 0
  | _, some (index + 1) =>
    match sections[index]? with
    | some found => (imageBase + found.address + record.value) % UInt64.size
    | none => 0

def symbol (imageBase : Nat) (sections : List Section) (strings : ByteArray)
    (record : SymbolRecord) : Symbol :=
  ⟨symbolName? strings record.name, record.kind, record.isDefined,
    record.address imageBase sections⟩

end SymbolRecord

/-! ## Files -/

/-- The part of the file that holds a section of relocatable code. -/
def Section.fileRange (header : Section) : Nat × Nat :=
  if header.isUninitialized then (0, 0) else (header.offset, header.storedSize)

/-- The file with the given tables, by the part of it that holds each section. -/
def objectFile (contents : ByteArray) (imageBase : Nat) (fileRange : Section → Nat × Nat)
    (sections : List Section) (table : SymbolTable) : ObjectFile where
  order := .little
  segments := sections.map fun header ↦
    let (offset, size) := fileRange header
    ⟨(imageBase + header.address) % UInt64.size, offset, size, header.memorySize⟩
  symbols := table.records.map (·.symbol imageBase sections table.strings)
  sectionNamed name :=
    let found := sections.find? fun header ↦
      (sectionName? table.strings header.name).any (·.data == name.toUTF8.data)
    (found.bind fun header ↦
      let (offset, size) := fileRange header
      slice? contents offset size).getD .empty

/-- What the header of a file tells. -/
structure Header where
  sectionCount : Nat
  symbolOffset : Nat
  symbolCount : Nat

/-- The header of twenty bytes, and the size of the optional one that follows. -/
def Header.read : Reader (Header × Nat) := do
  Reader.skip 2
  let sectionCount ← Reader.number 2
  Reader.skip 4
  let symbolOffset ← Reader.number 4
  let symbolCount ← Reader.number 4
  let optionalSize ← Reader.number 2
  Reader.skip 2
  return (⟨sectionCount, symbolOffset, symbolCount⟩, optionalSize)

/-- The mark of the large variety, as a number. -/
def largeMark : Nat := 0xC7A1BAD1EEBAA94BAF20FAF66AA4DCB8

/-- The header of the large variety, which no other one follows. -/
def Header.readLarge : Reader Header := do
  Reader.skip 4
  let version ← Reader.number 2
  Reader.skip 6
  let mark ← Reader.bytes 16
  if version ≠ 2 ∨ number? .big mark 0 16 ≠ some largeMark then failure
  Reader.skip 16
  let sectionCount ← Reader.number 4
  let symbolOffset ← Reader.number 4
  let symbolCount ← Reader.number 4
  return ⟨sectionCount, symbolOffset, symbolCount⟩

def readFile (large : Bool) : Reader ObjectFile := do
  let header ← if large then Header.readLarge
    else do
      let (header, optionalSize) ← Header.read
      Reader.skip optionalSize
      pure header
  let sections ← Reader.table header.sectionCount sectionSize Section.read
  let table ← SymbolTable.read large header.symbolOffset header.symbolCount
  return objectFile (← read).bytes 0 Section.fileRange sections table

def parse? (large : Bool) (bytes : ByteArray) : Option ObjectFile :=
  ((readFile large).runAt ⟨bytes, .little, bytes.size⟩ 0).map (·.1)

end MemoryInspector.Binary.Coff
