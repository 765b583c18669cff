import MemoryInspector.Target
import MemoryInspector.Text.CEscape

/-!
# Display of values

A value is shown by the first registered printer that accepts the name of its type, or of the
type it points to, and else in its native form. A member or element that fails is marked in place,
so that the value around it is still shown.

Display descends through types, and printers may follow pointers, so it is bounded by a depth. A
rendering that runs out of depth has no result; this is not a failure of the inspection and is
never marked in place.
-/

namespace MemoryInspector

open Text

/-- The outcome of a rendering: nothing when its depth runs out. -/
abbrev Rendering := ExceptT InspectError Option

namespace Rendering

def ofExcept {α : Type} (outcome : Except InspectError α) : Rendering α := ExceptT.mk (some outcome)

instance : MonadLift (Except InspectError) Rendering := ⟨ofExcept⟩

def outOfDepth {α : Type} : Rendering α := ExceptT.mk none

/-- What stands in the place of a part that fails. -/
def marker (e : InspectError) : String := s!"<error while printing value: {e.message}>"

/-- The text of a part, or its marker. -/
def inPlace (part : Rendering String) : Rendering String :=
  ExceptT.mk (part.run.map fun
    | .ok text => .ok text
    | .error e => .ok (marker e))

end Rendering

/-- A printer shows a value of a target; it is given the display of the values inside. -/
abbrev Printer := (Value → Rendering String) → Target → Value → Rendering String

structure Registration where
  /-- Whether the printer is meant for types of this name. -/
  accepts : String → Bool
  print : Printer

/-- Registered printers; earlier ones come first. -/
abbrev Printers := List Registration

namespace Printers

def find? (printers : Printers) (type : CType) : Option Printer :=
  (List.find? (fun registration : Registration ↦ registration.accepts type.spelling) printers).map
    (·.print)

end Printers

/-- The text of a scalar: truth values by name, characters with their code before them. -/
def scalarText (target : Target) (value : Value) (kind : Scalar) : Except InspectError String := do
  let number ← target.readInteger value
  match kind with
  | .bool => .ok (if number = 0 then "false" else "true")
  | .char => .ok s!"{signedDecimal number} {quoteChar (UInt8.ofNat (number % 256).toNat)}"
  | _ => .ok (signedDecimal number)

def braced (parts : List String) : String := "\x7b" ++ String.intercalate ", " parts ++ "\x7d"

/-- The form of a value for which no printer is registered. -/
def nativeForm (display : Value → Rendering String) (target : Target) (value : Value) :
    Rendering String :=
  match value.type with
  | .void => pure "<data variable, no debug info>"
  | .scalar kind => scalarText target value kind
  | .pointer _ => do
    let bits ← target.readBits value
    pure s!"0x{hex bits.toNat}"
  | .array (.scalar .char) _ => do
    let bytes ← target.readBytes value
    pure (quoteString bytes)
  | .array element length => do
    let _ ← target.types.valueSize value.type
    match value.address? with
    | none => throw (.evaluation value.type.spelling "array not located in memory")
    | some address =>
      let elements ← target.readArray address element length.toNat
      let texts ← elements.mapM fun element ↦ (display element).inPlace
      pure (braced texts)
  | .record name => do
    let layout ← target.types.record name
    let texts ← layout.fields.mapM fun field ↦ do
      let text ← match target.field value field.name with
        | .ok member => (display member).inPlace
        | .error e => pure (Rendering.marker e)
      pure s!"{field.name} = {text}"
    pure (braced texts)

/-- The display of a value within a depth of nested values. -/
def displayWithin (printers : Printers) (target : Target) : Nat → Value → Rendering String
  | 0, _ => Rendering.outOfDepth
  | depth + 1, value =>
    let display := displayWithin printers target depth
    match printers.find? value.type with
    | some print => print display target value
    | none =>
      match value.type with
      | .pointer pointee =>
        match printers.find? pointee with
        | some print => do
          let pointed ← target.dereference value
          print display target pointed
        | none => nativeForm display target value
      | _ => nativeForm display target value

/-- The number of types that occur in a type or in the layouts, counted with repetitions. Values
of a type that does not contain itself nest at most so deep. -/
def Registry.typeCount (types : Registry) (type : CType) : Nat :=
  types.records.foldl
    (fun count _ layout ↦ layout.fields.foldl (fun count field ↦ count + field.type.height) count) type.height

/-- How much deeper than types nest printers may go by following pointers. No display that ends goes
so deep: each of the displays that it is in the middle of takes up a place of its own, and there are
no more places than addresses. -/
def pointerDepth : Nat := UInt64.size

/-- The display of a value. It has no result for values that nest without end. -/
def display (printers : Printers) (target : Target) (value : Value) : Rendering String :=
  displayWithin printers target (target.types.typeCount value.type + pointerDepth) value

end MemoryInspector
