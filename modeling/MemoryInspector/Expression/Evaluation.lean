import MemoryInspector.Expression.Term
import MemoryInspector.Target

/-!
# Evaluation of expressions

The value of a term in a target: numbers, symbols, members, subscripts, contents, addresses and
casts. Only the pointers that an expression follows and the operands of casts are read.
-/

namespace MemoryInspector.Expression

/-- The number modulo 2 ^ (8 * size) for a type of fewer than eight bytes. -/
def truncateTo (type : CType) (bits : UInt64) : UInt64 :=
  match type with
  | .scalar kind => if kind.size < 8 then UInt64.ofNat (bits.toNat % Text.valueCount kind.size) else bits
  | _ => bits

variable (target : Target) (text : String)

/-- A failure of the whole expression. -/
def fail {α : Type} (reason : String) : Except InspectError α := .error (.evaluation text reason)

def memberOf (value : Value) (name : String) : Except InspectError Value :=
  match value.type with
  | .record record => do
    let layout ← target.types.record record
    if (layout.field? name).isSome then target.field value name
    else fail text s!"there is no member named {name}"
  | type => fail text s!"{type.spelling} is not a structure"

def elementAt (value : Value) (index : UInt64) : Except InspectError Value := do
  let (base, element) ← match value.type, value.address? with
    | .pointer element, _ => do
      let base ← target.readBits value
      .ok (base, element)
    | .array element _, some base => .ok (base, element)
    | .array _ _, none => fail text "cannot index an array not located in memory"
    | _, _ => fail text "cannot subscript something that is not an array or a pointer"
  let size ← target.types.byteSize element
  .ok (.atAddress (base + index * UInt64.ofNat size) element)

def contentsOf (value : Value) : Except InspectError Value :=
  match value.type with
  | .pointer _ => target.dereference value
  | .array _ _ => elementAt target text value 0
  | _ => fail text "attempt to take contents of a non-pointer value"

def arrowMember (value : Value) (name : String) : Except InspectError Value := do
  if value.type.isPointer then
    let record ← target.dereference value
    memberOf target text record name
  else fail text s!"'->' applied to non-pointer {value.type.spelling}"

def addressOf (value : Value) : Except InspectError Value :=
  match value.address? with
  | some address => .ok (.ofBits address (.pointer value.type))
  | none => fail text "attempt to take address of value not located in memory"

/-- A cast keeps the bits of a scalar or pointer; an array decays to its address. -/
def castTo (type : CType) (value : Value) : Except InspectError Value :=
  match type with
  | .pointer _ | .scalar _ => do
    let bits ← match value.type, value.address? with
      | .pointer _, _ | .scalar _, _ => target.readBits value
      | .array _ _, some address => .ok address
      | from_, _ => fail text s!"invalid cast from {from_.spelling}"
    .ok (.ofBits (truncateTo type bits) type)
  | _ => fail text s!"invalid cast to {type.spelling}"

def Term.eval : Term → Except InspectError Value
  | .integer value => .ok (.ofBits value (.scalar .uint64))
  | .symbol name =>
    match target.symbol? name with
    | some value => .ok value
    | none => fail text s!"no symbol \"{name}\" in current context"
  | .member record name => do memberOf target text (← record.eval) name
  | .arrow pointer name => do arrowMember target text (← pointer.eval) name
  | .subscript base index => do elementAt target text (← base.eval) index
  | .contents operand => do contentsOf target text (← operand.eval)
  | .addressOf operand => do Expression.addressOf text (← operand.eval)
  | .cast type operand => do castTo target text type (← operand.eval)
  | .unknownType name => .error (.unknownName name)
  | .fault reason => fail text reason
  | .faultAfter term reason => do
    let _ ← term.eval
    fail text reason

end Expression

/-- The value of an expression in a target. -/
def Target.evaluate (target : Target) (text : String) : Except InspectError Value :=
  match Expression.Token.scan text.toList with
  | .ok tokens => (Expression.Term.ofTokens target.types tokens).eval target text
  | .error reason => .error (.evaluation text reason)

end MemoryInspector
