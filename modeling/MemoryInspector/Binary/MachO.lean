import MemoryInspector.Binary.CompressedSection
import MemoryInspector.Binary.ObjectFile

/-!
# Mach-O files

A header and a list of commands, of which those count that describe segments with their sections
and the table of symbols.
-/

namespace MemoryInspector.Binary.MachO

structure Section where
  name : ByteArray
  segmentName : ByteArray
  size : Nat
  offset : Nat
  /-- The section takes no space in the file. -/
  isZeroFilled : Bool

/-- What the commands of a file tell. -/
structure Contents where
  segments : List Segment
  sections : List Section
  symbols : List Symbol

def headerSize (wide : Bool) : Nat := if wide then 32 else 28
def segmentSize (wide : Bool) : Nat := if wide then 72 else 56
def sectionSize (wide : Bool) : Nat := if wide then 80 else 68
def symbolSize (wide : Bool) : Nat := if wide then 16 else 12

def Section.read (wide : Bool) : Reader Section := do
  let name ← Reader.bytes 16
  let segmentName ← Reader.bytes 16
  let _ ← Reader.word wide
  let size ← Reader.word wide
  let offset ← Reader.number 4
  Reader.skip 12
  let type := (← Reader.number 4) % 256
  Reader.skip (if wide then 12 else 8)
  return ⟨fixedText name, fixedText segmentName, size, offset, [0x01, 0x0C, 0x12].contains type⟩

/-- A segment, and how many sections it has. -/
def readSegment (wide : Bool) : Reader (Segment × Nat) := do
  Reader.skip 24
  let address ← Reader.word wide
  let memorySize ← Reader.word wide
  let offset ← Reader.word wide
  let fileSize ← Reader.word wide
  Reader.skip 8
  let sectionCount ← Reader.number 4
  Reader.skip 4
  return (⟨address, offset, fileSize, memorySize⟩, sectionCount)

namespace Section

/-- The kind of what the symbols in a section name. -/
def symbolKind (header : Section) : SymbolKind :=
  match String.fromUTF8? header.segmentName, String.fromUTF8? header.name with
  | some "__TEXT", some "__text" => .text
  | some "__TEXT", some name =>
    if ["__const", "__cstring", "__literal4", "__literal8", "__literal16", "__eh_frame",
      "__gcc_except_tab"].contains name then .data else .other
  | some "__DATA", some name =>
    if ["__data", "__const", "__bss", "__common"].contains name then .data else .other
  | _, _ => .other

end Section

/-- A symbol, unless it is there for a debugger only. -/
def readSymbol (wide : Bool) (sections : List Section) (strings : ByteArray) :
    Reader (Option Symbol) := do
  let nameOffset ← Reader.number 4
  let type ← Reader.number 1
  let number ← Reader.number 1
  Reader.skip 2
  let address ← Reader.word wide
  if 0x20 ≤ type then return none
  else
    let place := (type / 2) % 8
    let kind : SymbolKind :=
      if place = 7 ∧ 0 < number then ((sections[number - 1]?).map (·.symbolKind)).getD .other
      else .other
    return some ⟨textAt? strings nameOffset, kind, place != 0, address⟩

/-- Where the table of symbols and their names are. -/
structure SymbolCommand where
  offset : Nat
  count : Nat
  stringsOffset : Nat
  stringsSize : Nat

def SymbolCommand.read : Reader SymbolCommand := do
  Reader.skip 8
  return ⟨← Reader.number 4, ← Reader.number 4, ← Reader.number 4, ← Reader.number 4⟩

/-- What the commands have told so far, with the last command for symbols. -/
structure Progress where
  segments : List Segment := []
  sections : List Section := []
  symbols : Option SymbolCommand := none

/-- Take in one command, which ends where the input does. -/
def command (wide : Bool) (file : Input) (code : Nat) (progress : Progress) : Reader Progress := do
  if code = (if wide then 0x19 else 0x01) then
    let (segment, sectionCount) ← readSegment wide
    let sections ← Reader.table sectionCount (sectionSize wide) (Section.read wide)
    return { progress with
      segments := progress.segments ++ [segment], sections := progress.sections ++ sections }
  else if code = 0x02 then
    let found ← SymbolCommand.read
    if found.offset + found.count * symbolSize wide ≤ file.stop then
      return { progress with symbols := some found }
    else failure
  else return progress

/-- Take in commands from a position on. What does not look like a command ends the list; a command
that does not hold what it should is an error. -/
def commands (wide : Bool) (file : Input) (stop : Nat) :
    (count position : Nat) → Progress → Option Progress
  | 0, _, progress => some progress
  | count + 1, position, progress =>
    let header : Reader (Nat × Nat) := do return (← Reader.number 4, ← Reader.number 4)
    match header.runAt { file with stop } position with
    | none => some progress
    | some ((code, size), _) =>
      if stop < position + size then some progress
      else do
        let (next, _) ← (command wide file code progress).runAt
          { file with stop := position + size } position
        commands wide file stop count (position + size) next

/-! ## Sections by name -/

/-- The text behind a start that a name has. -/
def behind? (start name : String) : Option String :=
  if name.startsWith start then some (name.drop start.length).toString else none

/-- Names in these files have two underscores where others have a point, and at most sixteen
characters. Names of compressed sections start with one letter more. -/
def hasName (header : Section) (name : String) : Bool :=
  let spelled (start : String) (rest : String) : Bool :=
    header.name.data == (String.ofList ((start ++ rest).toList.take 16)).toUTF8.data
  header.name.data == name.toUTF8.data ||
    (behind? "." name).any (spelled "__") || (behind? ".debug_" name).any (spelled "__zdebug_")

def isCompressed (header : Section) : Bool :=
  ((String.fromUTF8? (header.name.extract 0 9)).any (· == "__zdebug_"))

def contents? (file : ByteArray) (header : Section) : Option ByteArray :=
  if isCompressed header then
    if header.isZeroFilled then none else expandMarked? file header.offset header.size
  else if header.isZeroFilled then some .empty
  else slice? file header.offset header.size

/-- The symbols that a command tells of. -/
def symbolsOf (wide : Bool) (file : Input) (sections : List Section) (table : SymbolCommand) :
    List Symbol :=
  let strings := textTable file.bytes table.stringsOffset table.stringsSize
  let found := (Reader.table table.count (symbolSize wide)
    (readSymbol wide sections strings)).runAt file table.offset
  ((found.map (·.1)).getD []).filterMap id

def parse? (wide : Bool) (order : ByteOrder) (bytes : ByteArray) : Option ObjectFile := do
  let file : Input := ⟨bytes, order, bytes.size⟩
  let header : Reader (Nat × Nat) := do
    Reader.skip 16
    let count ← Reader.number 4
    let size ← Reader.number 4
    Reader.skip (headerSize wide - 24)
    return (count, size)
  let ((count, size), start) ← header.runAt file 0
  let progress ← if start + size ≤ bytes.size then commands wide file (start + size) count start {}
    else some {}
  some ⟨order, progress.segments,
    (progress.symbols.map (symbolsOf wide file progress.sections)).getD [], fun name ↦
      ((progress.sections.find? (hasName · name)).bind (contents? bytes)).getD .empty⟩

end MemoryInspector.Binary.MachO
