import MemoryInspector.Hierarchy.Layouts
import MemoryInspector.Hierarchy.Stamp
import MemoryInspector.Hierarchy.Vector

/-!
# Hierarchy nodes

A node has an id, a visit stamp and two vectors of neighbours. It is shown with the ids of its
neighbours alone, so that a cyclic hierarchy is no obstacle.
-/

namespace MemoryInspector.Hierarchy

/-- A node record in memory, the null address included. -/
structure NodeView where
  record : Value
deriving DecidableEq, Repr

namespace NodeView

/-- The node that a value is or points to. -/
def ofValue (target : Target) (value : Value) : Except InspectError NodeView := do
  let value ←
    if value.type = .pointer (.record nodeType) then target.dereference value else .ok value
  if value.type = .record nodeType then
    if value.address?.isSome then .ok ⟨value⟩
    else .error (.evaluation value.type.spelling "node is not located in memory")
  else .error (.unknownName nodeType)

def isNull (node : NodeView) : Bool := node.record.address? == some 0

def id (target : Target) (node : NodeView) : Except InspectError Value :=
  target.field node.record "id"

/-- The names of the stamp member, by generation of the layout. -/
def stampMembers : List String := ["visit_stamp", "trx_label"]

/-- The members of a stamp: a time, or a transaction and its number. -/
def stampParts : List (String × String) := [("tv_sec", "tv_nsec"), ("id", "cl")]

/-- The values of both members, if the stamp has them. -/
def stampPart? (target : Target) (stamp : Value) (names : String × String) :
    Option (Value × Value) :=
  match target.field stamp names.1, target.field stamp names.2 with
  | .ok first, .ok second => some (first, second)
  | _, _ => none

def stamp (target : Target) (node : NodeView) : Except InspectError Stamp :=
  match stampMembers.findSome? fun name ↦ (target.field node.record name).toOption with
  | none => .error (.unknownName s!"{nodeType}.visit_stamp")
  | some stamp =>
    match stampParts.findSome? (stampPart? target stamp) with
    | none => .error (.unknownName s!"{stamp.type.spelling}.tv_sec")
    | some (first, second) => do
      let seconds ← target.readInteger first
      let nanoseconds ← target.readInteger second
      .ok ⟨seconds, nanoseconds⟩

def parents (target : Target) (node : NodeView) : Except InspectError VectorView := do
  VectorView.ofValue target (← target.field node.record "parents")

def children (target : Target) (node : NodeView) : Except InspectError VectorView := do
  VectorView.ofValue target (← target.field node.record "children")

def render (display : Value → Rendering String) (target : Target) (node : NodeView) :
    Rendering String :=
  if node.isNull then pure "NULL"
  else do
    let id ← display (← node.id target)
    let stamp ← node.stamp target
    let slotType ← target.types.resolve s!"{nodeType} *"
    let parents ← renderIds display target (← node.parents target) slotType
    let children ← renderIds display target (← node.children target) slotType
    pure (s!"\x7bid: {id}, visit_stamp: {stamp.text}, parents: {parents}, " ++
      s!"children: {children}\x7d")

end NodeView

/-- The printer of nodes. -/
def nodePrinter : Printer := fun display target value ↦ do
  let node ← NodeView.ofValue target value
  node.render display target

/-- The registered printers of the hierarchy. -/
def printers : Printers := [⟨(· == nodeType), nodePrinter⟩]

end MemoryInspector.Hierarchy
