import MemoryInspector.DebugInfo.Form
import MemoryInspector.DebugInfo.LineTable

/-!
# Units

The units in the sections of debug information. A unit has a header, then entries, of which the
first one describes the unit as a whole.
-/

namespace MemoryInspector.DebugInfo

open Binary

/-- A unit as it lies in its section. -/
structure UnitHeader where
  format : UnitFormat
  abbreviationOffset : Nat
  /-- Position of the unit in the section. -/
  position : Nat
  /-- Positions in the unit of the first entry and of the end. -/
  start : Nat
  stop : Nat

namespace UnitHeader

/-- Fields that some kinds of units have behind the common ones. -/
def skipKind (wide : Bool) : (kind : Nat) → Reader Unit
  | 1 | 3 => return ()
  | 2 | 6 => do
    Reader.skip 8
    let _ ← Reader.word wide
  | 4 | 5 => Reader.skip 8
  | _ => failure

/-- The header at the current position; the position moves behind the whole unit. -/
def read : Reader UnitHeader := do
  let position ← Reader.position
  let (length, wide) ← Reader.initialLength
  let inner ← Reader.position
  Reader.skip length
  let fields : Reader UnitHeader := do
    let version ← Reader.number 2
    if 2 ≤ version ∧ version ≤ 4 then
      let abbreviationOffset ← Reader.word wide
      let addressSize ← Reader.addressSize
      let start ← Reader.position
      return ⟨⟨version, wide, addressSize⟩, abbreviationOffset, position, start - position,
        inner + length - position⟩
    else if version = 5 then
      let kind ← Reader.number 1
      let addressSize ← Reader.addressSize
      let abbreviationOffset ← Reader.word wide
      skipKind wide kind
      let start ← Reader.position
      return ⟨⟨version, wide, addressSize⟩, abbreviationOffset, position, start - position,
        inner + length - position⟩
    else failure
  fun input ↦ do
    let (header, _) ← fields.runAt { input with stop := inner + length } inner
    return header

end UnitHeader

namespace UnitContext

/-- The unit whose entries are read in a context. -/
def unit (context : UnitContext) (header : UnitHeader) : CompilationUnit where
  start := header.start
  stop := header.stop
  item? := context.item?
    ⟨context.sections.info, context.sections.order, header.position + header.stop⟩ header.position

/-- Whether the index of an address has an entry in the table of addresses. -/
def hasAddress (context : UnitContext) (base index : Nat) : Bool :=
  let size := context.format.addressSize
  base + index * size + size ≤ context.sections.addresses.size

end UnitContext

namespace UnitHeader

/-- The values that attributes of the root with that name have, the last one first. -/
def rootValues (root : Entry) (key : AttributeName) : List AttributeValue :=
  (root.attributes.filter (·.name == key)).reverse.map (·.value)

/-- The last offset that an attribute of the root gives. -/
def rootOffset? (root : Entry) (key : AttributeName) : Option Nat :=
  (rootValues root key).findSome? fun value ↦
    match value with
    | .sectionOffset offset => some offset
    | _ => none

/-- What the root says about other sections has to hold: its line table is well formed, and its
lowest address can be found. -/
def rootIsValid (context : UnitContext) (root : Entry) : Bool :=
  let linesAreValid := (rootOffset? root .lineProgram).all
    (LineTable.isValidAt context.sections.lines context.sections.order ·)
  let addressIsValid := match (rootValues root .lowAddress).head? with
    | some (.addressIndex index) =>
      context.hasAddress ((rootOffset? root .addressBase).getD 0) index
    | _ => true
  linesAreValid && addressIsValid

/-- The unit of a header. -/
def unit (header : UnitHeader) (sections : Sections) : Except Malformed CompilationUnit :=
  match Abbreviations.atOffset? sections header.abbreviationOffset with
  | none => .error .malformed
  | some abbreviations => do
    let context : UnitContext := ⟨sections, header.format, abbreviations, 0⟩
    match ← (context.unit header).entries with
    | [] => .error .malformed
    | root :: _ =>
      if rootIsValid context root then
        let base := (rootOffset? root .stringOffsetsBase).getD 0
        .ok ({ context with stringOffsetsBase := base }.unit header)
      else .error .malformed

end UnitHeader

/-- The headers from a position of the section on. -/
def headersFrom (input : Input) : (limit position : Nat) → Walk UnitHeader
  | 0, _ => .failed .malformed
  | limit + 1, position =>
    if input.stop ≤ position then .complete []
    else match UnitHeader.read.runAt input position with
      | none => .failed .malformed
      | some (header, next) => (headersFrom input limit next).behind [header]

/-- The units of the sections. -/
def Sections.units (sections : Sections) : Walk CompilationUnit :=
  let size := sections.info.size
  (headersFrom ⟨sections.info, sections.order, size⟩ (size + 1) 0).andEach (·.unit sections)

end MemoryInspector.DebugInfo
