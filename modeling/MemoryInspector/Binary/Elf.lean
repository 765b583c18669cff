import MemoryInspector.Binary.CompressedSection
import MemoryInspector.Binary.ObjectFile

/-!
# ELF files

The tables of an ELF file of either class and byte order: segments, sections and symbols. A file
whose tables do not lie inside it, or do not refer to each other as they should, is refused.
-/

namespace MemoryInspector.Binary.Elf

inductive SectionKind where
  | symbolTable
  | dynamicSymbolTable
  | stringTable
  /-- Section indices too large for the entries of a symbol table. -/
  | indexTable
  | relocations
  /-- The section takes no space in the file. -/
  | withoutContents
  | other
deriving DecidableEq, Repr

def SectionKind.ofCode : Nat → SectionKind
  | 2 => symbolTable
  | 3 => stringTable
  | 4 | 9 | 0x40000014 => relocations
  | 8 => withoutContents
  | 11 => dynamicSymbolTable
  | 18 => indexTable
  | _ => other

structure Section where
  nameOffset : Nat
  kind : SectionKind
  isCompressed : Bool
  offset : Nat
  size : Nat
  link : Nat
  info : Nat
deriving DecidableEq, Repr

namespace Section

/-- The bytes of a section; those without space in the file have none. -/
def bytes? (contents : ByteArray) (header : Section) : Option ByteArray :=
  if header.kind = .withoutContents then some .empty
  else slice? contents header.offset header.size

end Section

/-- Offsets and widths of the fields that are read, for one of the two classes. -/
structure Format where
  wide : Bool
  order : ByteOrder

namespace Format

def wordSize (format : Format) : Nat := if format.wide then 8 else 4

def headerSize (format : Format) : Nat := if format.wide then 64 else 52
def segmentSize (format : Format) : Nat := if format.wide then 56 else 32
def sectionSize (format : Format) : Nat := if format.wide then 64 else 40
def symbolSize (format : Format) : Nat := if format.wide then 24 else 16

variable (format : Format) (bytes : ByteArray) (start : Nat)

def half? (offset : Nat) : Option Nat := number? format.order bytes (start + offset) 2
def quarter? (offset : Nat) : Option Nat := number? format.order bytes (start + offset) 4
def word? (offset : Nat) : Option Nat := number? format.order bytes (start + offset) format.wordSize

/-- One of two offsets, by class. -/
def pick (wide narrow : Nat) : Nat := if format.wide then wide else narrow

/-- A segment, if it is one that is loaded into memory. -/
def segment? : Option (Option Segment) := do
  let kind ← format.quarter? bytes start 0
  let offset ← format.word? bytes start (format.pick 8 4)
  let address ← format.word? bytes start (format.pick 16 8)
  let fileSize ← format.word? bytes start (format.pick 32 16)
  let memorySize ← format.word? bytes start (format.pick 40 20)
  some (if kind = 1 then some ⟨address, offset, fileSize, memorySize⟩ else none)

def section? : Option Section := do
  let nameOffset ← format.quarter? bytes start 0
  let kind ← format.quarter? bytes start 4
  let flags ← format.word? bytes start 8
  let offset ← format.word? bytes start (format.pick 24 16)
  let size ← format.word? bytes start (format.pick 32 20)
  let link ← format.quarter? bytes start (format.pick 40 24)
  let info ← format.quarter? bytes start (format.pick 44 28)
  some ⟨nameOffset, .ofCode kind, flags &&& 0x800 != 0, offset, size, link, info⟩

def symbolKind : Nat → SymbolKind
  | 1 | 5 => .data
  | 2 | 10 => .text
  | _ => .other

def symbol? (strings : ByteArray) : Option Symbol := do
  let nameOffset ← format.quarter? bytes start 0
  let info ← number? format.order bytes (start + format.pick 4 12) 1
  let sectionIndex ← format.half? bytes start (format.pick 6 14)
  let address ← format.word? bytes start (format.pick 8 4)
  some ⟨textAt? strings nameOffset, symbolKind (info % 16), sectionIndex != 0, address⟩

/-- A table of `count` entries of one size. -/
def table? {α : Type} (count size : Nat) (entry : Nat → Option α) : Option (List α) :=
  if start + count * size ≤ bytes.size then
    (List.range count).mapM fun index ↦ entry (start + index * size)
  else none

end Format

open Format

/-- The first section header, if there is a section table. -/
def firstSection? (format : Format) (bytes : ByteArray) : Option (Option Section) := do
  let start ← format.word? bytes 0 (format.pick 40 32)
  if start = 0 then some none
  else
    guard ((← format.half? bytes 0 (format.pick 58 46)) = format.sectionSize)
    some (some (← format.section? bytes start))

def segments? (format : Format) (bytes : ByteArray) : Option (List Segment) := do
  let start ← format.word? bytes 0 (format.pick 32 28)
  if start = 0 then some []
  else
    let short ← format.half? bytes 0 (format.pick 56 44)
    let count ← if short < 0xFFFF then some short
      else (← firstSection? format bytes).map (·.info)
    if count = 0 then some []
    else
      guard ((← format.half? bytes 0 (format.pick 54 42)) = format.segmentSize)
      let found ← table? bytes start count format.segmentSize (format.segment? bytes)
      some (found.filterMap id)

def sections? (format : Format) (bytes : ByteArray) : Option (List Section) := do
  let start ← format.word? bytes 0 (format.pick 40 32)
  if start = 0 then some []
  else
    let short ← format.half? bytes 0 (format.pick 60 48)
    let count ← if short > 0 then some short
      else (← firstSection? format bytes).map (·.size)
    if count = 0 then some []
    else
      guard ((← format.half? bytes 0 (format.pick 58 46)) = format.sectionSize)
      table? bytes start count format.sectionSize (format.section? bytes)

/-- The table of section names. -/
def sectionNames? (format : Format) (bytes : ByteArray) (sections : List Section) :
    Option ByteArray := do
  if sections.isEmpty then some .empty
  else
    let short ← format.half? bytes 0 (format.pick 62 50)
    let index ← if short < 0xFFFF then some short
      else (← firstSection? format bytes).map (·.link)
    guard (index ≠ 0)
    let header ← sections[index]?
    if header.kind = .withoutContents then some .empty
    else
      guard (header.offset + header.size < UInt64.size)
      some (textTable bytes header.offset header.size)

/-- The string table that a section is linked to; a link to the section zero gives an empty one. -/
def linkedStrings? (bytes : ByteArray) (sections : List Section) (link : Nat) : Option ByteArray :=
  if link = 0 then some .empty
  else do
    let strings ← sections[link]?
    guard (strings.kind = .stringTable ∧ strings.offset + strings.size < UInt64.size)
    some (textTable bytes strings.offset strings.size)

/-- The contents of a section hold whole items of one size. -/
def holdsItems (bytes : ByteArray) (header : Section) (size : Nat) : Bool :=
  (header.bytes? bytes).any (·.size % size == 0)

/-- The first symbol table of a kind and the index of its section. A file may have none. -/
def symbols? (format : Format) (bytes : ByteArray) (sections : List Section) (kind : SectionKind) :
    Option (List Symbol × Nat) :=
  match sections.findIdx? (·.kind == kind) with
  | none => some ([], 0)
  | some index => do
    let header ← sections[index]?
    let contents ← header.bytes? bytes
    guard (holdsItems bytes header format.symbolSize)
    let strings ← linkedStrings? bytes sections header.link
    guard (sections.all fun other ↦
      other.kind != .indexTable || other.link != index || holdsItems bytes other 4)
    let count := contents.size / format.symbolSize
    let entries ← (List.range count).mapM fun entry ↦
      format.symbol? contents (entry * format.symbolSize) strings
    some (entries.drop 1, index)

/-- Every relocation section that belongs to the symbol table and names a section names one of the
file, which holds no relocations itself. -/
def relocationsAreValid (sections : List Section) (symbolSection : Nat) : Bool :=
  sections.all fun header ↦
    header.kind != .relocations || header.link != symbolSection || header.info == 0 ||
      sections[header.info]?.any (·.kind != .relocations)

def format? (bytes : ByteArray) : Option Format := do
  let magic ← number? .big bytes 0 4
  guard (magic = 0x7F454C46)
  let wide ← match ← number? .big bytes 4 1 with
    | 1 => some false
    | 2 => some true
    | _ => none
  let order ← match ← number? .big bytes 5 1 with
    | 1 => some ByteOrder.little
    | 2 => some ByteOrder.big
    | _ => none
  guard ((← number? .big bytes 6 1) = 1)
  let format : Format := ⟨wide, order⟩
  guard (format.headerSize ≤ bytes.size)
  some format

/-- The contents of a compressed section: a header gives the method and the size. -/
def expandSection? (format : Format) (bytes : ByteArray) (header : Section) : Option ByteArray := do
  guard (header.kind ≠ .withoutContents)
  let method ← format.quarter? bytes header.offset 0
  let size ← format.word? bytes header.offset (format.pick 8 4)
  let headerSize := format.pick 24 12
  guard (header.offset + headerSize ≤ bytes.size ∧ headerSize ≤ header.size)
  let stored ← slice? bytes (header.offset + headerSize) (header.size - headerSize)
  (← CompressionMethod.ofCode? method).expand? stored size

/-- The first section of that name, where section zero does not count. -/
def findSection? (names : ByteArray) (sections : List Section) (name : String) : Option Section :=
  (sections.drop 1).find? fun header ↦
    (terminated? names header.nameOffset).any (·.data == name.toUTF8.data)

/-- The name under which a section with debug information is kept compressed. -/
def compressedName? (name : String) : Option String :=
  if name.startsWith ".debug_" then some (".z" ++ (name.drop 1).toString) else none

/-- The contents of a section, which may be compressed. -/
def sectionContents? (format : Format) (bytes names : ByteArray) (sections : List Section)
    (name : String) : Option ByteArray :=
  let contents? (header : Section) : Option ByteArray :=
    if header.isCompressed then expandSection? format bytes header else header.bytes? bytes
  match findSection? names sections name with
  | some header => contents? header
  | none => do
    let header ← findSection? names sections (← compressedName? name)
    if header.isCompressed then contents? header
    else
      guard (header.kind ≠ .withoutContents)
      expandMarked? bytes header.offset header.size

def parse? (bytes : ByteArray) : Option ObjectFile := do
  let format ← format? bytes
  let segments ← segments? format bytes
  let sections ← sections? format bytes
  let names ← sectionNames? format bytes sections
  let (symbols, symbolSection) ← symbols? format bytes sections .symbolTable
  let (dynamicSymbols, _) ← symbols? format bytes sections .dynamicSymbolTable
  guard (relocationsAreValid sections symbolSection)
  some ⟨format.order, segments, symbols ++ dynamicSymbols, fun name ↦
    (sectionContents? format bytes names sections name).getD .empty⟩

end MemoryInspector.Binary.Elf
