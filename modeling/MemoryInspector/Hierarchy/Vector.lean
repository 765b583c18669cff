import MemoryInspector.Render.Display

/-!
# Vectors

A vector is a record with a pointer to its slots and the number of slots in use; each slot is a
pointer to an element. The capacity has no part in what is shown.
-/

namespace MemoryInspector.Hierarchy

/-- A record value whose layout has the members of a vector. -/
structure VectorView where
  record : Value
deriving DecidableEq, Repr

namespace VectorView

def dataMember : String := "vec_arr"

def lengthMember : String := "vec_last"

/-- The vector that a value is or points to. -/
def ofValue (target : Target) (value : Value) : Except InspectError VectorView := do
  let value ← match value.type with
    | .pointer (.record _) => target.dereference value
    | _ => .ok value
  match value.type with
  | .record record => do
    let layout ← target.types.record record
    match [dataMember, lengthMember].find? fun name ↦ (layout.field? name).isNone with
    | some name => .error (.unknownName s!"{record}.{name}")
    | none => .ok ⟨value⟩
  | type => .error (.unknownName s!"{type.spelling}.{dataMember}")

/-- The address of the first slot. -/
def data (target : Target) (vector : VectorView) : Except InspectError UInt64 := do
  target.readBits (← target.field vector.record dataMember)

/-- The number of slots in use. -/
def length (target : Target) (vector : VectorView) : Except InspectError UInt64 := do
  target.readBits (← target.field vector.record lengthMember)

/-- The slots in use, as pointers to the given type. The slots of an empty vector are not looked
for. -/
def slots (target : Target) (vector : VectorView) (pointee : CType) :
    Except InspectError (List Value) := do
  let count ← vector.length target
  if count = 0 then .ok []
  else
    let address ← vector.data target
    target.readArray address (.pointer pointee) count.toNat

end VectorView

/-- How the elements of a vector are shown. -/
inductive ElementKind where
  | recordWithId (name : String)
  | scalar (kind : Scalar)
  | native (type : CType)
deriving DecidableEq, Repr

def ElementKind.ofType (types : Registry) (pointee : CType) : ElementKind :=
  match pointee with
  | .record name =>
    if (types.record? name).any fun layout ↦ (layout.field? "id").isSome then .recordWithId name
    else .native pointee
  | .scalar kind => .scalar kind
  | _ => .native pointee

/-- The text of an element. -/
def ElementKind.render (kind : ElementKind) (display : Value → Rendering String)
    (target : Target) (element : Value) : Rendering String :=
  match kind with
  | .scalar kind => scalarText target element kind
  | .recordWithId _ | .native _ => display element

/-- The ids of the records that a vector points to, each followed by a comma. -/
def renderIds (display : Value → Rendering String) (target : Target) (vector : VectorView)
    (slotType : CType) : Rendering String :=
  match slotType.pointee? with
  | none => throw (.unknownName s!"{slotType.spelling}.id")
  | some pointee =>
    match ElementKind.ofType target.types pointee with
    | .recordWithId _ => do
      let slots ← vector.slots target pointee
      let ids ← slots.mapM fun slot ↦ do
        let record ← target.dereference slot
        let id ← target.field record "id"
        let text ← display id
        pure s!"{text}, "
      pure (String.join ("\x7b " :: ids ++ ["\x7d"]))
    | _ => throw (.unknownName s!"{pointee.spelling}.id")

/-- The texts of the elements up to the first that fails, and how the dump ended. -/
def dumpSlots (render : Value → Rendering String) : List Value → List String × Rendering Unit
  | [] => ([], pure ())
  | slot :: rest =>
    match (render slot).run with
    | some (.ok text) =>
      let (texts, ending) := dumpSlots render rest
      (text :: texts, ending)
    | some (.error e) => ([], throw e)
    | none => ([], Rendering.outOfDepth)

/-- The type named for the elements of a dump; it has to be a type of readable size. -/
def elementType (types : Registry) (name : String) : Except InspectError CType :=
  match (do let type ← types.resolve name; let _ ← types.valueSize type; pure type) with
  | .ok type => .ok type
  | .error e => .error (.invalidArgument 2 "element type" e.message)

/-- The texts of the elements of a vector in order, as values of the named type. -/
def dump (printers : Printers) (target : Target) (vector : VectorView) (typeName : String) :
    List String × Rendering Unit :=
  match elementType target.types typeName with
  | .error e => ([], throw e)
  | .ok pointee =>
    match vector.slots target pointee with
    | .error e => ([], throw e)
    | .ok slots =>
      let kind := ElementKind.ofType target.types pointee
      dumpSlots (fun slot ↦ do
        let element ← target.dereference slot
        kind.render (display printers target) target element) slots

end MemoryInspector.Hierarchy
