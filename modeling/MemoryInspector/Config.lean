import MemoryInspector.Registry

/-!
# Configuration

What a user tells about the inspected program: layouts of records, type definitions and the types
of symbols. Types are written as names and get their meaning when the configuration is applied to
a registry.
-/

namespace MemoryInspector

open Text

structure FieldEntry where
  name : String
  offset : UInt64
  typeName : String
deriving DecidableEq, Repr

structure RecordEntry where
  name : String
  size : UInt64
  fields : List FieldEntry
deriving DecidableEq, Repr

structure Config where
  records : List RecordEntry := []
  /-- Type names by the name that they define. -/
  definitions : Std.TreeMap String String := ∅
  /-- Type names by symbol. -/
  symbols : Std.TreeMap String String := ∅

inductive ConfigError where
  | typeDefinition (name : String) (cause : InspectError)
  | fieldType (record field : String) (cause : InspectError)
  | symbolType (name : String) (cause : InspectError)
  /-- The type of a field has no size. -/
  | fieldSize (cause : InspectError)
  | doesNotFit (record field : String) (size : UInt64)
deriving DecidableEq, Repr

namespace ConfigError

/-- The failure of inspection behind the error, if there is one. -/
def cause? : ConfigError → Option InspectError
  | typeDefinition _ cause | fieldType _ _ cause | symbolType _ cause | fieldSize cause => some cause
  | doesNotFit _ _ _ => none

/-- What the error is about, without its cause. -/
def headline : ConfigError → String
  | typeDefinition name _ => s!"Invalid typedef {name}"
  | fieldType record field _ => s!"Invalid type of {record}.{field}"
  | symbolType name _ => s!"Invalid type of symbol {name}"
  | fieldSize cause => cause.message
  | doesNotFit record field size =>
    s!"Field {record}.{field} does not fit in {decimal size.toNat} bytes"

def message : ConfigError → String
  | fieldSize cause => cause.message
  | e => match e.cause? with
    | some cause => s!"{e.headline}: {cause.message}"
    | none => e.headline

end ConfigError

namespace Config

/-- Give every configured record its size, so that types may mention it before its fields are
known. -/
def declareRecords (records : List RecordEntry) (types : Registry) : Registry :=
  records.foldl (fun types record ↦ types.addRecord ⟨record.name, record.size, []⟩) types

def applyDefinition (types : Registry) (entry : String × String) : Except ConfigError Registry :=
  match types.resolve entry.2 with
  | .ok type => .ok (types.define entry.1 type)
  | .error e => .error (.typeDefinition entry.1 e)

/-- A configured field with its type, which has to fit into the record. -/
def fieldOf (types : Registry) (record : RecordEntry) (field : FieldEntry) :
    Except ConfigError Field :=
  match types.resolve field.typeName with
  | .error e => .error (.fieldType record.name field.name e)
  | .ok type =>
    match types.byteSize type with
    | .error e => .error (.fieldSize e)
    | .ok size =>
      if field.offset.toNat + size ≤ record.size.toNat then .ok ⟨field.name, field.offset, type⟩
      else .error (.doesNotFit record.name field.name record.size)

def applyRecord (types : Registry) (record : RecordEntry) : Except ConfigError Registry := do
  let fields ← record.fields.mapM (fieldOf types record)
  .ok (types.addRecord ⟨record.name, record.size, fields⟩)

/-- The registry with the configured layouts on top: first the sizes of all records, then the
type definitions in the order of their names, then the fields of the records. -/
def typeRegistry (config : Config) (types : Registry) : Except ConfigError Registry := do
  let declared := declareRecords config.records types
  let named ← config.definitions.toList.foldlM applyDefinition declared
  config.records.foldlM applyRecord named

def applySymbol (types : Registry) (known : Std.TreeMap String CType) (entry : String × String) :
    Except ConfigError (Std.TreeMap String CType) :=
  match types.resolve entry.2 with
  | .ok type => .ok (known.insert entry.1 type)
  | .error e => .error (.symbolType entry.1 e)

/-- The types of the configured symbols. -/
def symbolTypes (config : Config) (types : Registry) :
    Except ConfigError (Std.TreeMap String CType) :=
  config.symbols.toList.foldlM (applySymbol types) ∅

end Config

end MemoryInspector
