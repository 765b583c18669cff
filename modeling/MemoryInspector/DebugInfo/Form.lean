import Std.Data.TreeMap.Basic
import MemoryInspector.Binary.Reader
import MemoryInspector.DebugInfo.Entry
import MemoryInspector.Text.Utf8

/-!
# Encoded entries

How entries and their attributes are written in bytes. A table of abbreviations gives the tag, the
attributes and their forms for each entry; the form of an attribute says how long its value is
and of which class.
-/

namespace MemoryInspector.DebugInfo

open Binary

/-- The sections that hold debug information; one that a file lacks is empty. -/
structure Sections where
  order : ByteOrder
  info : ByteArray
  abbreviations : ByteArray
  strings : ByteArray
  lineStrings : ByteArray
  stringOffsets : ByteArray
  addresses : ByteArray
  lines : ByteArray

/-- What the reading of a value depends on. -/
structure UnitFormat where
  version : Nat
  /-- Offsets take eight bytes. -/
  wide : Bool
  addressSize : Nat
deriving DecidableEq, Repr

structure AttributeSpec where
  name : AttributeName
  form : Nat
  /-- The value of an attribute that is kept with the abbreviation. -/
  implicit : Option Int
deriving DecidableEq, Repr

structure Abbreviation where
  tag : Tag
  hasChildren : Bool
  attributes : List AttributeSpec
deriving DecidableEq, Repr

abbrev Abbreviations := Std.TreeMap Nat Abbreviation

def Tag.ofCode : Nat → Tag
  | 0x01 => arrayType
  | 0x02 => classType
  | 0x04 => enumerationType
  | 0x0D => member
  | 0x0F => pointerType
  | 0x10 => referenceType
  | 0x13 => structureType
  | 0x16 => typeDefinition
  | 0x17 => unionType
  | 0x21 => subrangeType
  | 0x24 => baseType
  | 0x26 => constType
  | 0x35 => volatileType
  | 0x37 => restrictType
  | 0x47 => atomicType
  | _ => other

def AttributeName.ofCode : Nat → AttributeName
  | 0x01 => sibling
  | 0x03 => name
  | 0x0B => byteSize
  | 0x0D => bitSize
  | 0x10 => lineProgram
  | 0x11 => lowAddress
  | 0x2F => upperBound
  | 0x37 => count
  | 0x38 => memberLocation
  | 0x3C => declaration
  | 0x3E => encoding
  | 0x49 => type
  | 0x72 => stringOffsetsBase
  | 0x73 | 0x2133 => addressBase
  | _ => other

namespace Abbreviations

/-- The attributes of an abbreviation, up to a pair of zeros. -/
def readAttributes : (limit : Nat) → Reader (List AttributeSpec)
  | 0 => failure
  | limit + 1 => do
    let name ← Reader.shortUnsigned
    let form ← Reader.shortUnsigned
    if name = 0 ∧ form = 0 then return []
    else if name = 0 ∨ form = 0 then failure
    else
      let implicit ← if form = 0x21 then some <$> Reader.signed else pure none
      return ⟨.ofCode name, form, implicit⟩ :: (← readAttributes limit)

/-- The abbreviations up to the code zero or the end; no code may be used twice. -/
def readAll : (limit : Nat) → Abbreviations → Reader Abbreviations
  | 0, _ => failure
  | limit + 1, known => do
    if ← Reader.atEnd then return known
    let code ← Reader.unsigned
    if code = 0 then return known
    else
      let tag ← Reader.shortUnsigned
      let children ← Reader.number 1
      if tag = 0 ∨ children > 1 then failure
      let attributes ← readAttributes limit
      if known.contains code then failure
      readAll limit (known.insert code ⟨.ofCode tag, children == 1, attributes⟩)

/-- The table at an offset of its section. -/
def atOffset? (sections : Sections) (offset : Nat) : Option Abbreviations :=
  let size := sections.abbreviations.size
  if offset ≤ size then
    (readAll (size + 1) ∅).runAt ⟨sections.abbreviations, sections.order, size⟩ offset |>.map (·.1)
  else none

end Abbreviations

/-- Where the values of a unit are looked up. -/
structure UnitContext where
  sections : Sections
  format : UnitFormat
  abbreviations : Abbreviations
  /-- Where the unit's part of the table of string offsets starts. -/
  stringOffsetsBase : Nat

namespace UnitContext

/-- The text at an offset of a section of texts. -/
def textAt (texts : ByteArray) (offset : Nat) : AttributeValue :=
  match terminated? texts offset with
  | some bytes => .text (String.ofList (Text.decodeLossy bytes.data.toList))
  | none => .other

/-- The text of an index into the table of string offsets. -/
def indexedText (context : UnitContext) (index : Nat) : AttributeValue :=
  let width := if context.format.wide then 8 else 4
  match number? context.sections.order context.sections.stringOffsets
      (context.stringOffsetsBase + index * width) width with
  | some offset => textAt context.sections.strings offset
  | none => .other

/-- The constant that a location expression adds, if its first operation does this. -/
def expressionValue (order : ByteOrder) (expression : ByteArray) : AttributeValue :=
  let input : Input := ⟨expression, order, expression.size⟩
  let added : Reader Nat := do
    if (← Reader.number 1) = 0x23 then Reader.unsigned else failure
  .location ((added.runAt input 0).map fun found ↦ UInt64.ofNat found.1)

def block (length : Reader Nat) : Reader AttributeValue := do
  let count ← length
  let start ← Reader.position
  Reader.skip count
  let input ← read
  return expressionValue input.order (input.bytes.extract start (start + count))

def constant (n : Nat) : AttributeValue := .number (UInt64.ofNat n)

def signedConstant (i : Int) : AttributeValue :=
  if i < 0 then .other else .number (UInt64.ofNat i.toNat)

/-- A constant of four or eight bytes. In some attributes one as long as an offset is an offset. -/
def fixedConstant (context : UnitContext) (key : AttributeName) (width n : Nat) : AttributeValue :=
  let isOffset := key = .lineProgram ∨ (key = .memberLocation ∧ context.format.version ≤ 3)
  if isOffset ∧ width = (if context.format.wide then 8 else 4) then .sectionOffset n
  else constant n

/-- The text of a name; texts of other attributes have no use. -/
def nameText (key : AttributeName) (text : AttributeValue) : AttributeValue :=
  if key = .name then text else .other

/-- The value of an attribute in a form, with at most `limit` changes of form on the way. -/
def readForm (context : UnitContext) (key : AttributeName) (implicit : Option Int) :
    (limit form : Nat) → Reader AttributeValue
  | 0, _ => failure
  | limit + 1, form => do
    let wide := context.format.wide
    let reference (width : Nat) : Reader AttributeValue := do
      return .reference (← Reader.number width)
    let ignored (width : Nat) : Reader AttributeValue := do
      Reader.skip width
      return .other
    let indexed (index : Reader Nat) : Reader AttributeValue := do
      return nameText key (context.indexedText (← index))
    let address (index : Reader Nat) : Reader AttributeValue := do
      return .addressIndex (← index)
    match form with
    | 0x01 => ignored context.format.addressSize
    | 0x03 => block (Reader.number 2)
    | 0x04 => block (Reader.number 4)
    | 0x05 => return constant (← Reader.number 2)
    | 0x06 => return context.fixedConstant key 4 (← Reader.number 4)
    | 0x07 => return context.fixedConstant key 8 (← Reader.number 8)
    | 0x08 =>
      let bytes ← Reader.terminated
      return nameText key (.text (String.ofList (Text.decodeLossy bytes.data.toList)))
    | 0x09 | 0x18 => block Reader.unsigned
    | 0x0A => block (Reader.number 1)
    | 0x0B => return constant (← Reader.number 1)
    | 0x0C => ignored 1
    | 0x0D => return signedConstant (← Reader.signed)
    | 0x0E => return nameText key (textAt context.sections.strings (← Reader.word wide))
    | 0x0F => return constant (← Reader.unsigned)
    | 0x10 => ignored (if context.format.version = 2 then context.format.addressSize
        else if wide then 8 else 4)
    | 0x11 => reference 1
    | 0x12 => reference 2
    | 0x13 => reference 4
    | 0x14 => reference 8
    | 0x15 => return .reference (← Reader.unsigned)
    | 0x16 => context.readForm key none limit (← Reader.shortUnsigned)
    | 0x17 => return .sectionOffset (← Reader.word wide)
    | 0x19 => return .other
    | 0x1A | 0x1F02 => indexed Reader.unsigned
    | 0x1B | 0x1F01 => address Reader.unsigned
    | 0x1C => ignored 4
    | 0x1D | 0x1F20 | 0x1F21 => ignored (if wide then 8 else 4)
    | 0x1E => ignored 16
    | 0x1F => return nameText key (textAt context.sections.lineStrings (← Reader.word wide))
    | 0x20 | 0x24 => ignored 8
    | 0x21 =>
      match implicit with
      | some value => return signedConstant value
      | none => failure
    | 0x22 | 0x23 =>
      let _ ← Reader.unsigned
      return .other
    | 0x25 => indexed (Reader.number 1)
    | 0x26 => indexed (Reader.number 2)
    | 0x27 => indexed (Reader.number 3)
    | 0x28 => indexed (Reader.number 4)
    | 0x29 => address (Reader.number 1)
    | 0x2A => address (Reader.number 2)
    | 0x2B => address (Reader.number 3)
    | 0x2C => address (Reader.number 4)
    | _ => failure

def readAttribute (context : UnitContext) (spec : AttributeSpec) : Reader Attribute := do
  let input ← read
  let start ← Reader.position
  let value ← context.readForm spec.name spec.implicit (input.stop - start + 1) spec.form
  return ⟨spec.name, value⟩

/-- The attributes from a position on up to the first one that cannot be read, and the position
behind them if there is none such. -/
def attributesFrom (context : UnitContext) (input : Input) :
    List AttributeSpec → (position : Nat) → List Attribute × Option Nat
  | [], position => ([], some position)
  | spec :: rest, position =>
    match (context.readAttribute spec).runAt input position with
    | none => ([], none)
    | some (first, next) =>
      let (others, stop) := context.attributesFrom input rest next
      (first :: others, stop)

/-- What stands at a position of the unit that starts at `base` in its section. -/
def item? (context : UnitContext) (input : Input) (base position : Nat) : Option Item := do
  let (code, next) ← Reader.unsigned.runAt input (base + position)
  if code = 0 then return .null (next - base)
  else
    let abbreviation ← context.abbreviations[code]?
    let (attributes, stop) := context.attributesFrom input abbreviation.attributes next
    return .entry ⟨position, abbreviation.tag, abbreviation.hasChildren, attributes,
      stop.map (· - base)⟩

end UnitContext

end MemoryInspector.DebugInfo
