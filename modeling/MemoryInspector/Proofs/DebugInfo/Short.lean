import MemoryInspector.Proofs.DebugInfo.Forest

/-!
# Units of short entries

A forest is written as a unit by its items, one after another. The smallest such units are those of
short entries, where each item takes one position: if the entries of a forest say where they are
written, the forest is laid out in its unit.
-/

namespace MemoryInspector.DebugInfo

/-! ## Items of a forest -/

/-- What stands at the positions of a forest, where each item takes one position. -/
def Forest.items : Forest → (position : Nat) → List Item
  | .nil, _ => []
  | .cons entry children rest, position =>
    if entry.hasChildren then
      let below := items children (position + 1)
      let behind := position + below.length + 2
      .entry entry :: (below ++ .null behind :: items rest behind)
    else .entry entry :: items rest (position + 1)

/-- The sibling that an entry names, be it usable or not. -/
def Entry.sibling? (entry : Entry) : Option Nat :=
  match entry.value .sibling with
  | .ok (some (.reference offset)) => some offset
  | _ => none

/-- The entries say that they take one position each, and where that is. Where an entry names a
sibling, that is the position behind the entries below it. -/
def Forest.IsShort : Forest → (position : Nat) → Prop
  | .nil, _ => True
  | .cons entry children rest, position =>
    entry.offset = position ∧ entry.next? = some (position + 1) ∧
      if entry.hasChildren then
        let behind := position + (children.items (position + 1)).length + 2
        children.IsShort (position + 1) ∧ (∀ sibling ∈ entry.sibling?, sibling = behind) ∧
          rest.IsShort behind
      else children.entries = [] ∧ rest.IsShort (position + 1)

instance instDecidableIsShort :
    (forest : Forest) → (position : Nat) → Decidable (forest.IsShort position)
  | .nil, _ => .isTrue trivial
  | .cons _ children rest, _ =>
    have : ∀ position, Decidable (children.IsShort position) := instDecidableIsShort children
    have : ∀ position, Decidable (rest.IsShort position) := instDecidableIsShort rest
    inferInstanceAs (Decidable (_ ∧ _ ∧ ite _ _ _))

namespace CompilationUnit

variable {unit : CompilationUnit} {forest : Forest} {item : Item} {items others : List Item}
  {entry : Entry} {position behind sibling stop : Nat}

/-- The items stand in the unit one after another. -/
def Holds (unit : CompilationUnit) (items : List Item) (position : Nat) : Prop :=
  ∀ index item, items[index]? = some item → unit.itemAt (position + index) = .ok item

theorem Holds.append (h : unit.Holds (items ++ others) position) :
    unit.Holds items position ∧ unit.Holds others (position + items.length) := by
  constructor
  · intro index item hitem
    obtain ⟨hlt, -⟩ := List.getElem?_eq_some_iff.1 hitem
    exact h index item ((List.getElem?_append_left hlt).trans hitem)
  · intro index item hitem
    rw [Nat.add_assoc]
    apply h
    rwa [List.getElem?_append_right (Nat.le_add_right _ _), Nat.add_sub_cancel_left]

theorem Holds.cons (h : unit.Holds (item :: items) position) :
    unit.itemAt position = .ok item ∧ unit.Holds items (position + 1) := by
  have happend : unit.Holds ([item] ++ items) position := h
  obtain ⟨hfirst, hrest⟩ := happend.append
  exact ⟨hfirst 0 item rfl, hrest⟩

theorem sibling?_of_siblingPosition? (h : unit.siblingPosition? entry = some sibling) :
    entry.sibling? = some sibling := by
  unfold siblingPosition? at h
  split at h
  · next offset hvalue =>
    have hsibling : entry.sibling? = some offset := by
      rw [Entry.sibling?, hvalue]
    rw [hsibling]
    split at h
    · exact h
    · cases h
  · cases h

theorem HasEntry.of_itemAt (hitem : unit.itemAt entry.offset = .ok (.entry entry))
    (hnext : entry.next? = some (entry.offset + 1)) : unit.HasEntry entry (entry.offset + 1) := by
  refine ⟨?_, hnext, Nat.lt_succ_self _⟩
  rw [entryAt, hitem]
  rfl

/-- A forest of short entries is laid out where its items stand. -/
theorem laidOut_of_holds (hshort : forest.IsShort position)
    (hitems : unit.Holds (forest.items position) position) :
    unit.LaidOut forest position (position + (forest.items position).length) := by
  induction forest generalizing position with
  | nil => exact .nil position
  | cons entry children rest ihChildren ihRest =>
    obtain ⟨rfl, hnext, hshort⟩ := hshort
    rw [Forest.items] at hitems ⊢
    split at hshort
    · next hbranch =>
      rw [if_pos hbranch] at hitems ⊢
      dsimp only at hshort hitems ⊢
      obtain ⟨hchildren, hsibling, hrest⟩ := hshort
      obtain ⟨hentry, hinside⟩ := hitems.cons
      obtain ⟨hbelow, hinside⟩ := hinside.append
      obtain ⟨hnull, hbehind⟩ := hinside.cons
      have hlaid := LaidOut.branch (.of_itemAt hentry hnext) hbranch (ihChildren hchildren hbelow)
        ⟨hnull, by omega⟩ (fun sibling hposition ↦
          hsibling sibling (sibling?_of_siblingPosition? hposition))
        (ihRest hrest (by convert hbehind using 1; omega))
      convert hlaid using 1
      simp only [List.length_cons, List.length_append]
      omega
    · next hleaf =>
      rw [if_neg hleaf] at hitems ⊢
      obtain ⟨hnone, hrest⟩ := hshort
      obtain ⟨hentry, hbehind⟩ := hitems.cons
      cases children with
      | cons => cases hnone
      | nil =>
        have hlaid := LaidOut.leaf (.of_itemAt hentry hnext) (Bool.eq_false_iff.2 hleaf)
          (ihRest hrest hbehind)
        convert hlaid using 1
        rw [List.length_cons]
        omega

end CompilationUnit

/-- The unit of a forest, up to a position. -/
def Forest.unit (forest : Forest) (stop : Nat) : CompilationUnit where
  start := 0
  stop := stop
  item? position := (forest.items 0)[position]?

/-- A forest of short entries is laid out in its unit. -/
theorem Forest.laidOut_unit {forest : Forest} {stop : Nat} (hshort : forest.IsShort 0)
    (hstop : (forest.items 0).length = stop) : (forest.unit stop).LaidOut forest 0 stop := by
  have hitems : (forest.unit stop).Holds (forest.items 0) 0 := by
    intro index item hitem
    obtain ⟨hlt, -⟩ := List.getElem?_eq_some_iff.1 hitem
    rw [Nat.zero_add, CompilationUnit.itemAt, if_pos ⟨Nat.zero_le _, hstop ▸ hlt⟩]
    dsimp only [Forest.unit]
    rw [hitem]
  have hlaid := CompilationUnit.laidOut_of_holds hshort hitems
  rwa [Nat.zero_add, hstop] at hlaid

namespace Short

/-! ## Short entries -/

/-- An entry with the given attributes. -/
def entry (offset : Nat) (tag : Tag) (hasChildren : Bool)
    (attributes : List (AttributeName × AttributeValue)) : Entry where
  offset := offset
  tag := tag
  hasChildren := hasChildren
  attributes := attributes.map fun (key, value) ↦ ⟨key, value⟩
  next? := some (offset + 1)

def pointer (offset target : Nat) : Entry :=
  entry offset .pointerType false [(.byteSize, .number 8), (.type, .reference target)]

def member (offset : Nat) (name : String) (place : UInt64) (target : Nat) : Entry :=
  entry offset .member false
    [(.name, .text name), (.type, .reference target), (.memberLocation, .number place)]

def base (offset : Nat) (name : String) (size code : UInt64) : Entry :=
  entry offset .baseType false [(.name, .text name), (.byteSize, .number size), (.encoding, .number code)]

def definition (offset : Nat) (name : String) (target : Nat) : Entry :=
  entry offset .typeDefinition false [(.name, .text name), (.type, .reference target)]

/-- The entry for the whole of a unit. -/
def root : Entry := entry 0 .other true []

end Short

end MemoryInspector.DebugInfo
