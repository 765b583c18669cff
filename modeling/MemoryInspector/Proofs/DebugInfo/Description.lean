import Mathlib.Data.List.Forall2
import MemoryInspector.DebugInfo.Types
import MemoryInspector.Proofs.DebugInfo.Forest

/-!
# Described records

Records as C declares them, and the entries that describe them. A type of a member is described by
an entry for each of its constructors, which refer to each other by their positions; a type may
share the entries of another one, and the entries of a unit may stand in any order.
-/

namespace MemoryInspector

namespace Scalar

/-- The names of an integer type in C, in the orders of words that compilers write. A `long` has
eight bytes or four. -/
def baseNames : Scalar → List String
  | bool => ["_Bool", "bool"]
  | char => ["char"]
  | int8 => ["signed char"]
  | uint8 => ["unsigned char"]
  | int16 => ["short", "short int", "signed short", "signed short int"]
  | uint16 => ["unsigned short", "unsigned short int", "short unsigned int"]
  | int32 => ["int", "signed", "signed int", "long", "long int", "signed long", "signed long int"]
  | uint32 => ["unsigned", "unsigned int", "unsigned long", "unsigned long int",
      "long unsigned int"]
  | int64 => ["long", "long int", "signed long", "signed long int", "long long", "long long int",
      "signed long long", "signed long long int"]
  | uint64 => ["unsigned long", "unsigned long int", "long unsigned int", "unsigned long long",
      "unsigned long long int", "long long unsigned int"]

/-- The codes of the encodings of an integer type. A plain `char` is signed or not. -/
def encodingCodes : Scalar → List UInt64
  | bool => [2]
  | char => [6, 8]
  | int8 => [6]
  | uint8 => [8]
  | int16 | int32 | int64 => [5]
  | uint16 | uint32 | uint64 => [7]

end Scalar

namespace DebugInfo

theorem baseType_eq {kind : Scalar} {name : String} {code : UInt64} (hname : name ∈ kind.baseNames)
    (hcode : code ∈ kind.encodingCodes) :
    baseType name (UInt64.ofNat kind.size) (Encoding.ofCode code) = .scalar kind := by
  have hall : (kind.baseNames.all fun name ↦ kind.encodingCodes.all fun code ↦
      baseType name (UInt64.ofNat kind.size) (Encoding.ofCode code) = .scalar kind) = true := by
    cases kind <;> decide
  simp only [List.all_eq_true, decide_eq_true_eq] at hall
  exact hall name hname code hcode

/-! ## Descriptions -/

inductive Qualifier where
  | constant
  | volatile

def Qualifier.tag : Qualifier → Tag
  | constant => .constType
  | volatile => .volatileType

/-- The type of a member. -/
inductive TypeDescription where
  | void
  | base (kind : Scalar) (name : String)
  | pointer (target : TypeDescription)
  /-- The lengths are those of the dimensions as they are declared. -/
  | array (element : TypeDescription) (lengths : List UInt64)
  | qualified (qualifier : Qualifier) (type : TypeDescription)
  | definition (name : String) (type : TypeDescription)
  | record (name : String)

namespace TypeDescription

/-- Nested arrays, the first length outermost. -/
def nested (element : CType) : (lengths : List UInt64) → CType
  | [] => element
  | length :: rest => .array (nested element rest) length

def ctype : TypeDescription → CType
  | void => .void
  | base kind _ => .scalar kind
  | pointer target => .pointer target.ctype
  | array element lengths => nested element.ctype lengths
  | qualified _ type => type.ctype
  | definition _ type => type.ctype
  | record name => .record name

end TypeDescription

structure MemberDescription where
  name : String
  offset : UInt64
  type : TypeDescription

def MemberDescription.field (member : MemberDescription) : Field :=
  ⟨member.name, member.offset, member.type.ctype⟩

structure RecordDescription where
  name : String
  size : UInt64
  members : List MemberDescription

def RecordDescription.layout (record : RecordDescription) : RecordLayout :=
  ⟨record.name, record.size, record.members.map (·.field)⟩

/-! ## Entries -/

/-- The type of the entry is at the position, or missing. -/
def Entry.RefersTo (entry : Entry) (position : Option Nat) : Prop :=
  entry.value .type = .ok (position.map .reference)

/-- The entry gives the length of a dimension: as a count, as the greatest index, or not at all if
nothing is in it. -/
inductive DimensionEntry (entry : Entry) (length : UInt64) : Prop
  | counted (htag : entry.tag = .subrangeType) (hcount : entry.number .count = .ok (some length))
  | bounded (htag : entry.tag = .subrangeType) (hcount : entry.number .count = .ok none)
      (hpositive : length ≠ 0) (hbound : entry.number .upperBound = .ok (some (length - 1)))
  | unbounded (htag : entry.tag = .subrangeType) (hcount : entry.number .count = .ok none)
      (hempty : length = 0) (hbound : entry.number .upperBound = .ok none)

/-- The entry at the position describes the type; where there is no position, that is `void`. -/
inductive Denotes (tops : Forest) : (position : Option Nat) → TypeDescription → Prop
  | void : Denotes tops none .void
  | base {entry : Entry} {below : Forest} {kind : Scalar} {name : String} {code : UInt64}
      (htree : (entry, below) ∈ tops.trees) (htag : entry.tag = .baseType)
      (hentry : entry.name = .ok (some name)) (hname : name ∈ kind.baseNames)
      (hsize : entry.number .byteSize = .ok (some (UInt64.ofNat kind.size)))
      (hencoding : entry.number .encoding = .ok (some code)) (hcode : code ∈ kind.encodingCodes) :
      Denotes tops (some entry.offset) (.base kind name)
  | pointer {entry : Entry} {below : Forest} {position : Option Nat} {target : TypeDescription}
      (htree : (entry, below) ∈ tops.trees) (htag : entry.tag = .pointerType)
      (hrefers : entry.RefersTo position) (htarget : Denotes tops position target) :
      Denotes tops (some entry.offset) (.pointer target)
  | array {entry : Entry} {below : Forest} {position : Option Nat} {element : TypeDescription}
      {lengths : List UInt64} (htree : (entry, below) ∈ tops.trees) (htag : entry.tag = .arrayType)
      (hrefers : entry.RefersTo position) (helement : Denotes tops position element)
      (hlengths : List.Forall₂ DimensionEntry below.roots lengths) :
      Denotes tops (some entry.offset) (.array element lengths)
  | qualified {entry : Entry} {below : Forest} {position : Option Nat} {qualifier : Qualifier}
      {type : TypeDescription} (htree : (entry, below) ∈ tops.trees) (htag : entry.tag = qualifier.tag)
      (hrefers : entry.RefersTo position) (htype : Denotes tops position type) :
      Denotes tops (some entry.offset) (.qualified qualifier type)
  | definition {entry : Entry} {below : Forest} {position : Option Nat} {name : String}
      {type : TypeDescription} (htree : (entry, below) ∈ tops.trees)
      (htag : entry.tag = .typeDefinition) (hname : entry.name = .ok (some name))
      (hrefers : entry.RefersTo position) (htype : Denotes tops position type) :
      Denotes tops (some entry.offset) (.definition name type)
  | record {entry : Entry} {below : Forest} {name : String} (htree : (entry, below) ∈ tops.trees)
      (htag : entry.tag.isRecord = true) (hname : entry.name = .ok (some name)) :
      Denotes tops (some entry.offset) (.record name)

/-- The entry places a member: by a number, by a location that adds it, or not at all at the start
of its record. -/
inductive Entry.Places (entry : Entry) (offset : UInt64) : Prop
  | number (h : entry.value .memberLocation = .ok (some (.number offset)))
  | location (h : entry.value .memberLocation = .ok (some (.location (some offset))))
  | start (hmissing : entry.value .memberLocation = .ok none) (hstart : offset = 0)

structure MemberEntry (tops : Forest) (entry : Entry) (member : MemberDescription) : Prop where
  tag_eq : entry.tag = .member
  bitSize_eq : entry.value .bitSize = .ok none
  name_eq : entry.name = .ok (some member.name)
  places : entry.Places member.offset
  denotes : ∃ position, entry.RefersTo position ∧ Denotes tops position member.type

/-- The entry, and what is below it, describes a complete record. -/
structure RecordEntry (tops : Forest) (entry : Entry) (below : Forest)
    (record : RecordDescription) : Prop where
  isRecord : entry.tag.isRecord = true
  declaration_eq : entry.value .declaration = .ok none
  name_eq : entry.name = .ok (some record.name)
  size_eq : entry.number .byteSize = .ok (some record.size)
  members : List.Forall₂ (MemberEntry tops) below.roots record.members

/-- The unit has an entry for the whole of it, with the entries of the records and of their types
right below. -/
structure CompilationUnit.Describes (unit : CompilationUnit) (root : Entry) (tops : Forest)
    (records : List RecordDescription) : Prop where
  laidOut : unit.LaidOut (.cons root tops .nil) unit.start unit.stop
  root_tag : root.tag = .other
  /-- An entry is for one of the records or for another type. -/
  top : ∀ entry below, (entry, below) ∈ tops.trees →
    (∃ record ∈ records, RecordEntry tops entry below record) ∨
      entry.tag.isRecord = false ∧ ∃ type, Denotes tops (some entry.offset) type
  /-- Only members and dimensions stand below them. -/
  below_tag : ∀ entry below, (entry, below) ∈ tops.trees → ∀ inner ∈ below.entries,
    inner.tag = .member ∨ inner.tag = .subrangeType
  /-- No record is left out. -/
  listed : ∀ record ∈ records, ∃ entry below,
    (entry, below) ∈ tops.trees ∧ RecordEntry tops entry below record

end DebugInfo

end MemoryInspector
