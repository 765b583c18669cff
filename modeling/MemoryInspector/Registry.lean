import Std.Data.TreeMap.Basic
import MemoryInspector.CType
import MemoryInspector.Error
import MemoryInspector.TypeName

/-!
# Known types

The record layouts and type definitions of an inspected program, and the two questions that they
answer: which type a written name means, and how many bytes a type takes.
-/

namespace MemoryInspector

open Text

structure Field where
  name : String
  offset : UInt64
  type : CType
deriving DecidableEq, Repr

structure RecordLayout where
  name : String
  size : UInt64
  fields : List Field
deriving DecidableEq, Repr

/-- The first field of that name. -/
def RecordLayout.field? (layout : RecordLayout) (name : String) : Option Field :=
  layout.fields.find? (·.name == name)

structure Registry where
  records : Std.TreeMap String RecordLayout
  definitions : Std.TreeMap String CType

namespace Registry

def empty : Registry := ⟨∅, ∅⟩

/-- Add a layout under its name, in place of an earlier one. -/
def addRecord (types : Registry) (layout : RecordLayout) : Registry :=
  { types with records := types.records.insert layout.name layout }

def define (types : Registry) (name : String) (type : CType) : Registry :=
  { types with definitions := types.definitions.insert name type }

def record? (types : Registry) (name : String) : Option RecordLayout := types.records[name]?

def definition? (types : Registry) (name : String) : Option CType := types.definitions[name]?

def recordCount (types : Registry) : Nat := types.records.size

def record (types : Registry) (name : String) : Except InspectError RecordLayout :=
  match types.record? name with
  | some layout => .ok layout
  | none => .error (.unknownName name)

/-- What a base without stars and length means. A name that is not tagged is looked for among
`void`, the scalars, the type definitions and the records, in this order. -/
def baseType? (types : Registry) (tagged : Bool) (name : String) : Option CType :=
  let asRecord := (types.record? name).map fun _ ↦ CType.record name
  if tagged then asRecord
  else if name = "void" then some .void
  else match Scalar.ofCName? name with
    | some scalar => some (.scalar scalar)
    | none => (types.definition? name).or asRecord

/-- The type under that many pointers. -/
def pointers (type : CType) : Nat → CType
  | 0 => type
  | n + 1 => .pointer (pointers type n)

def typeNamed? (types : Registry) (name : TypeName) : Option CType :=
  (types.baseType? name.tagged name.base).map fun base ↦
    let type := pointers base name.stars
    match name.length with
    | some length => .array type length
    | none => type

/-- The type that a text means. -/
def resolve (types : Registry) (text : String) : Except InspectError CType :=
  match (TypeName.read? text.toList).bind types.typeNamed? with
  | some type => .ok type
  | none => .error (.unknownName text)

/-- Size in bytes, below 2 ^ 64. -/
def byteSize (types : Registry) : CType → Except InspectError Nat
  | .void => .ok 1
  | .scalar kind => .ok kind.size
  | .pointer _ => .ok CType.pointerSize
  | .array element length => do
    let size ← types.byteSize element
    if size * length.toNat < UInt64.size then .ok (size * length.toNat)
    else .error (.evaluation (CType.array element length).spelling "type is too large")
  | .record name => do
    let layout ← types.record name
    .ok layout.size.toNat

/-- Largest value that is read in one piece, in bytes. -/
def maxValueSize : Nat := 65536

/-- Size in bytes of a value that may be read in one piece. -/
def valueSize (types : Registry) (type : CType) : Except InspectError Nat := do
  let size ← types.byteSize type
  if size ≤ maxValueSize then .ok size
  else .error (.evaluation type.spelling
    s!"value requires {decimal size} bytes, more than the {decimal maxValueSize} bytes limit")

theorem valueSize_le {types : Registry} {type : CType} {size : Nat}
    (h : types.valueSize type = .ok size) : size ≤ maxValueSize := by
  unfold valueSize at h
  cases hs : types.byteSize type with
  | error e => simp [hs, bind, Except.bind] at h
  | ok n =>
    simp only [hs, bind, Except.bind] at h
    split at h <;> simp_all

end Registry

end MemoryInspector
