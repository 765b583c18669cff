import MemoryInspector.DebugInfo.Entry
import MemoryInspector.Registry

/-!
# Types of debugging information

The registry that the entries of a program describe. Every complete structure, union or class
becomes a record layout, and every named type definition and base type a name that the registry
resolves. A record without a name takes that of a type definition for it.

A type refers to others until it comes to a record, a base type or nothing. References that form
a cycle on the way never come to an end, which is an outcome of its own.
-/

namespace MemoryInspector.DebugInfo

open Text

/-- The outcome of following references: nothing when they do not end. -/
abbrev Resolving := ExceptT Malformed Option

instance : MonadLift (Except Malformed) Resolving := ⟨fun outcome ↦ ExceptT.mk (some outcome)⟩

/-- Types that are already known, by the position of their entry. -/
abbrev TypeCache := Std.TreeMap Nat CType

abbrev CachedResolving := StateT TypeCache Resolving

/-- Encodings of base types that give an integer type. -/
inductive Encoding where
  | boolean
  | signed
  | signedChar
  | unsigned
  | unsignedChar
  | other
deriving DecidableEq, Repr

def Encoding.ofCode (code : UInt64) : Encoding :=
  if code = 2 then boolean
  else if code = 5 then signed
  else if code = 6 then signedChar
  else if code = 7 then unsigned
  else if code = 8 then unsignedChar
  else other

/-- The integer type of a size and encoding. -/
def Encoding.scalar? (encoding : Encoding) (size : UInt64) : Option Scalar :=
  match encoding with
  | boolean => if size = 1 then some .bool else Scalar.integer? size.toNat false
  | signedChar => if size = 1 then some .char else none
  | signed => Scalar.integer? size.toNat true
  | unsigned | unsignedChar => Scalar.integer? size.toNat false
  | other => none

/-- The type of a base type entry. A spelling that names a scalar of that size goes before the
encoding; what is no integer is kept as bytes. -/
def baseType (name : String) (size : UInt64) (encoding : Encoding) : CType :=
  match (Scalar.ofCName? name).filter fun scalar ↦ scalar.size = size.toNat with
  | some scalar => .scalar scalar
  | none =>
    match encoding.scalar? size with
    | some scalar => .scalar scalar
    | none => .array (.scalar .uint8) size

/-- A unit with what is needed to name its records. -/
structure NamedUnit where
  unit : CompilationUnit
  /-- Position among the units. -/
  index : Nat
  /-- Names that type definitions give to records without a name, by the position of the entry. -/
  recordNames : Std.TreeMap Nat String

/-- The record without a name that a type definition names, and the name. -/
def namedRecord? (unit : CompilationUnit) (entry : Entry) :
    Except Malformed (Option (Nat × String)) := do
  if entry.tag ≠ .typeDefinition then return none
  match ← entry.value .type with
  | some (.reference target) =>
    match ← entry.name with
    | none => return none
    | some name =>
      let record ← unit.entryAt target
      if !record.tag.isRecord then return none
      else if (← record.value .name).isSome then return none
      else return some (target, name)
  | _ => return none

/-- The names that type definitions give to records; the first one for a record counts. -/
def recordNames (unit : CompilationUnit) (entries : List Entry) :
    Except Malformed (Std.TreeMap Nat String) :=
  entries.foldlM (fun names entry ↦ do
    match ← namedRecord? unit entry with
    | some (position, name) => return names.insertIfNew position name
    | none => return names) ∅

namespace NamedUnit

def recordName (named : NamedUnit) (entry : Entry) : Except Malformed String := do
  let anonymous := s!"<anonymous {decimal named.index}:0x{hex entry.offset}>"
  match ← entry.name with
  | some name => return name
  | none => return named.recordNames[entry.offset]?.getD anonymous

/-- The type that an entry refers to, by a way to find the type at a position. References out of
the unit are not followed. -/
def referredType (typeAt : Nat → CachedResolving CType) (entry : Entry) :
    CachedResolving (Option CType) := do
  match ← entry.value .type with
  | some (.reference position) => return some (← typeAt position)
  | some _ => return some .void
  | none => return none

/-- The lengths of the dimensions of an array, outermost first. A dimension without a bound has
length zero. -/
def dimensions (unit : CompilationUnit) (entry : Entry) : Except Malformed (List UInt64) := do
  let ranges := (← (unit.children entry).all).filter (·.tag == .subrangeType)
  ranges.mapM fun range ↦ do
    match ← range.number .count with
    | some count => return count
    | none =>
      match ← range.number .upperBound with
      | some bound => return bound + 1
      | none => return 0

def arrayOf (element : CType) (dimensions : List UInt64) : CType :=
  dimensions.foldr (fun length type ↦ .array type length) element

/-- The type that an entry stands for. -/
def entryType (named : NamedUnit) (typeAt : Nat → CachedResolving CType) (entry : Entry) :
    CachedResolving CType := do
  match entry.tag with
  | .baseType =>
    let name := (← entry.name).getD ""
    let size := (← entry.number .byteSize).getD 0
    let encoding := match ← entry.number .encoding with
      | some code => Encoding.ofCode code
      | none => .other
    return baseType name size encoding
  | .pointerType | .referenceType =>
    return .pointer ((← referredType typeAt entry).getD .void)
  | .typeDefinition | .constType | .volatileType | .restrictType | .atomicType =>
    return (← referredType typeAt entry).getD .void
  | .structureType | .unionType | .classType => return .record (← named.recordName entry)
  | .enumerationType =>
    match ← referredType typeAt entry with
    | some type => return type
    | none =>
      let size := (← entry.number .byteSize).getD 4
      return .scalar ((Scalar.integer? size.toNat false).getD .uint32)
  | .arrayType =>
    let element := (← referredType typeAt entry).getD .void
    return arrayOf element (← dimensions named.unit entry)
  | _ => return .void

/-- The type of the entry at a position, following at most `depth` references. -/
def typeWithin (named : NamedUnit) : (depth position : Nat) → CachedResolving CType
  | 0, _ => fun _ ↦ ExceptT.mk none
  | depth + 1, position => do
    match (← get)[position]? with
    | some type => return type
    | none =>
      let entry ← named.unit.entryAt position
      let type ← named.entryType (named.typeWithin depth) entry
      modify (·.insert position type)
      return type

/-- The type of the entry at a position. No more references can follow each other without a cycle
than there are positions. -/
def typeAt (named : NamedUnit) (position : Nat) : CachedResolving CType :=
  named.typeWithin (named.unit.stop + 1) position

/-- The offset of a member in its record. -/
def memberOffset (entry : Entry) : Except Malformed UInt64 := do
  match ← entry.value .memberLocation with
  | some (.location (some added)) => return added
  | some (.location none) => throw .malformed
  | some (.number offset) => return offset
  | _ => return 0

/-- The field of a member entry. Bit fields and members without a name are not fields. -/
def fieldOf? (named : NamedUnit) (entry : Entry) : CachedResolving (Option Field) := do
  if entry.tag ≠ .member then return none
  if (← entry.value .bitSize).isSome then return none
  match ← entry.name with
  | none => return none
  | some name =>
    let offset ← memberOffset entry
    let type := (← referredType named.typeAt entry).getD .void
    return some ⟨name, offset, type⟩

/-- The layout of a record entry. Each member is followed to its type before the next one is looked
for. -/
def recordLayout (named : NamedUnit) (entry : Entry) : CachedResolving RecordLayout := do
  let name ← named.recordName entry
  let size := (← entry.number .byteSize).getD 0
  let members := named.unit.children entry
  let fields ← members.found.mapM named.fieldOf?
  members.outcome
  return ⟨name, size, fields.filterMap id⟩

/-- Add the type of an entry under a name, unless the name is taken. -/
def defineName (named : NamedUnit) (types : Registry) (name : String) (entry : Entry) :
    CachedResolving Registry := do
  if (types.definition? name).isSome then return types
  else return types.define name (← named.typeAt entry.offset)

/-- The registry with what one entry declares. -/
def collectEntry (named : NamedUnit) (types : Registry) (entry : Entry) :
    CachedResolving Registry := do
  match entry.tag with
  | .structureType | .unionType | .classType =>
    if (← entry.value .declaration).isSome then return types
    else
      let layout ← named.recordLayout entry
      if (types.record? layout.name).isSome then return types
      else return types.addRecord layout
  | .typeDefinition =>
    match ← entry.name with
    | some name => named.defineName types name entry
    | none => return types
  | .baseType =>
    match ← entry.name with
    | some name =>
      if (Scalar.ofCName? name).isSome then return types
      else named.defineName types name entry
    | none => return types
  | _ => return types

end NamedUnit

/-- The registry with what the entries of a unit declare. -/
def collectUnit (types : Registry) (index : Nat) (unit : CompilationUnit) : Resolving Registry := do
  let entries ← unit.entries
  let names ← recordNames unit entries
  let named : NamedUnit := ⟨unit, index, names⟩
  let (collected, _) ← (entries.foldlM named.collectEntry types).run ∅
  return collected

/-- The registry of a list of units. -/
def registryOf (units : List CompilationUnit) : Resolving Registry :=
  units.zipIdx.foldlM (fun types (unit, index) ↦ collectUnit types index unit) Registry.empty

end MemoryInspector.DebugInfo
