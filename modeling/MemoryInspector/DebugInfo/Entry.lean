import MemoryInspector.CType

/-!
# Debugging information entries

The description of a program's types as a tree of entries. An entry has a tag and attributes and
is referred to by its offset in its unit; the entries of a unit follow each other, and a null
entry ends a list of children.
-/

namespace MemoryInspector.DebugInfo

inductive Tag where
  | arrayType
  | classType
  | enumerationType
  | member
  | pointerType
  | referenceType
  | structureType
  | typeDefinition
  | unionType
  | subrangeType
  | baseType
  | constType
  | volatileType
  | restrictType
  | atomicType
  | other
deriving DecidableEq, Repr

def Tag.isRecord : Tag → Bool
  | structureType | unionType | classType => true
  | _ => false

inductive AttributeName where
  | sibling
  | name
  | byteSize
  | bitSize
  | upperBound
  | count
  | memberLocation
  | declaration
  | encoding
  | type
  | lineProgram
  | lowAddress
  | stringOffsetsBase
  | addressBase
  | other
deriving DecidableEq, Repr

inductive AttributeValue where
  /-- A constant that is not negative. -/
  | number (value : UInt64)
  | text (value : String)
  /-- An entry of the same unit. -/
  | reference (offset : Nat)
  /-- A location expression that adds a constant, or some other one. -/
  | location (added : Option UInt64)
  /-- An offset into another section. -/
  | sectionOffset (offset : Nat)
  /-- An index into the table of addresses. -/
  | addressIndex (index : Nat)
  /-- A value of some other class, or a text that cannot be found. -/
  | other
deriving DecidableEq, Repr

structure Attribute where
  name : AttributeName
  value : AttributeValue
deriving DecidableEq, Repr

structure Entry where
  /-- Position in the unit. -/
  offset : Nat
  tag : Tag
  hasChildren : Bool
  /-- The attributes up to the first one that cannot be read. -/
  attributes : List Attribute
  /-- The position behind the attributes, if all of them can be read. -/
  next? : Option Nat
deriving DecidableEq, Repr

/-- The debug information does not have the form that it should have. -/
inductive Malformed where
  | malformed
deriving DecidableEq, Repr

/-- What a walk finds one after another, and whether it comes to its end or to something malformed. -/
structure Walk (α : Type) where
  found : List α
  outcome : Except Malformed Unit

namespace Walk

variable {α β : Type}

/-- A walk that comes to its end. -/
def complete (found : List α) : Walk α := ⟨found, .ok ()⟩

/-- A walk that fails before it finds anything. -/
def failed (e : Malformed) : Walk α := ⟨[], .error e⟩

/-- The walk that finds something else before. -/
def behind (front : List α) (walk : Walk α) : Walk α := { walk with found := front ++ walk.found }

/-- All that is found, if the walk comes to its end. -/
def all (walk : Walk α) : Except Malformed (List α) := walk.outcome.map fun _ ↦ walk.found

/-- The walk that takes a further step with each of what is found. -/
def andEach (walk : Walk α) (step : α → Except Malformed β) : Walk β :=
  walk.found.foldr (fun a rest ↦
    match step a with
    | .ok b => rest.behind [b]
    | .error e => failed e) ⟨[], walk.outcome⟩

end Walk

namespace Entry

/-- The value of the first of the attributes with that name. Attributes are read in order, so one
that cannot be read hides those behind it. -/
def value (entry : Entry) (key : AttributeName) : Except Malformed (Option AttributeValue) :=
  match entry.attributes.find? (·.name == key) with
  | some found => .ok (some found.value)
  | none => if entry.next?.isSome then .ok none else .error .malformed

/-- The value of an attribute if it is a number. -/
def number (entry : Entry) (key : AttributeName) : Except Malformed (Option UInt64) := do
  match ← entry.value key with
  | some (.number n) => .ok (some n)
  | _ => .ok none

/-- The name of an entry; a name that is no text is an error. -/
def name (entry : Entry) : Except Malformed (Option String) := do
  match ← entry.value .name with
  | none => .ok none
  | some (.text text) => .ok (some text)
  | some _ => .error .malformed

end Entry

/-- What stands at a position of a unit. -/
inductive Item where
  /-- The null entry, and the position behind it. -/
  | null (next : Nat)
  | entry (entry : Entry)
deriving DecidableEq, Repr

namespace Item

def entry? : Item → Option Entry
  | null _ => none
  | entry found => some found

/-- The position behind an item, if all of the item can be read. -/
def next? : Item → Option Nat
  | null next => some next
  | entry found => found.next?

/-- The position behind an item that stands at `position`. -/
def behind (item : Item) (position : Nat) : Except Malformed { next : Nat // position < next } :=
  match item.next? with
  | some next => if h : position < next then .ok ⟨next, h⟩ else .error .malformed
  | none => .error .malformed

end Item

/-- The entries of a unit lie between two positions. -/
structure CompilationUnit where
  start : Nat
  stop : Nat
  /-- What can be read at a position. -/
  item? : Nat → Option Item

namespace CompilationUnit

/-- What stands at a position between start and stop. -/
def itemAt (unit : CompilationUnit) (position : Nat) : Except Malformed Item :=
  if unit.start ≤ position ∧ position < unit.stop then
    match unit.item? position with
    | some item => .ok item
    | none => .error .malformed
  else .error .malformed

def entryAt (unit : CompilationUnit) (position : Nat) : Except Malformed Entry := do
  match ← unit.itemAt position with
  | .entry found => .ok found
  | .null _ => .error .malformed

/-- All entries from a position on. -/
def entriesFrom (unit : CompilationUnit) (position : Nat) : Except Malformed (List Entry) :=
  if _h : position < unit.stop then
    match unit.itemAt position with
    | .error e => .error e
    | .ok item =>
      match item.behind position with
      | .error e => .error e
      | .ok ⟨next, _⟩ => (unit.entriesFrom next).map (item.entry?.toList ++ ·)
  else .ok []
termination_by unit.stop - position

def entries (unit : CompilationUnit) : Except Malformed (List Entry) := unit.entriesFrom unit.start

/-- The position of the next sibling, where the entry gives a usable one. -/
def siblingPosition? (unit : CompilationUnit) (entry : Entry) : Option Nat :=
  match entry.value .sibling with
  | .ok (some (.reference offset)) =>
    if entry.offset < offset ∧ unit.start ≤ offset ∧ offset < unit.stop then some offset else none
  | _ => none

/-- Where to go on behind the item at a position, and how many levels deeper that lies: at the
sibling that an entry with children names, else at what follows the item. -/
def stepOver (unit : CompilationUnit) (position : Nat) (item : Item) :
    Except Malformed ({ next : Nat // position < next } × Nat) :=
  let deeper := item.entry?.any (·.hasChildren)
  let sibling? := if deeper then item.entry?.bind unit.siblingPosition? else none
  match sibling? with
  | some sibling =>
    if h : position < sibling then .ok (⟨sibling, h⟩, 0) else .error .malformed
  | none => (item.behind position).map ((·, if deeper then 1 else 0))

/-- The entries at level zero from a position on, up to the null entry that ends them. An entry is
found before its end is looked for. -/
def siblingsFrom (unit : CompilationUnit) (position level : Nat) : Walk Entry :=
  if _h : position < unit.stop then
    match unit.itemAt position with
    | .error e => .failed e
    | .ok item =>
      if level = 0 ∧ item.entry? = none then .complete []
      else
        let found := if level = 0 then item.entry?.toList else []
        match unit.stepOver position item with
        | .error e => (Walk.failed e).behind found
        | .ok (⟨next, _⟩, deeper) =>
          let nextLevel := if item.entry? = none then level - 1 else level + deeper
          (unit.siblingsFrom next nextLevel).behind found
  else .complete []
termination_by unit.stop - position

/-- The children of an entry. -/
def children (unit : CompilationUnit) (entry : Entry) : Walk Entry :=
  if entry.hasChildren then
    match entry.next? with
    | none => .failed .malformed
    | some next => unit.siblingsFrom next 0
  else .complete []

end CompilationUnit

end MemoryInspector.DebugInfo
