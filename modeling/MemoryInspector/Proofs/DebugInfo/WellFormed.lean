import MemoryInspector.Proofs.DebugInfo.Forest
import MemoryInspector.Proofs.DebugInfo.Resolution
import MemoryInspector.Proofs.TypeName

/-!
# Well-formed units

A unit as a compiler writes it for a program. Its entries may stand at any depth and in any order
and may refer to each other in any way but for a cycle outside records. Whatever is read in such a
unit can be read, so what an entry says is a matter of its attributes alone.
-/

namespace MemoryInspector.DebugInfo

variable {unit : CompilationUnit} {forest below : Forest} {entry record : Entry}

/-! ## What an entry says -/

namespace Entry

def attribute? (entry : Entry) (key : AttributeName) : Option AttributeValue :=
  (entry.attributes.find? (·.name == key)).map (·.value)

def number? (entry : Entry) (key : AttributeName) : Option UInt64 :=
  match entry.attribute? key with
  | some (.number n) => some n
  | _ => none

/-- The name of an entry, where that is a text. -/
def title? (entry : Entry) : Option String :=
  match entry.attribute? .name with
  | some (.text text) => some text
  | _ => none

/-- The position in the unit that the type attribute refers to. -/
def reference? (entry : Entry) : Option Nat :=
  match entry.attribute? .type with
  | some (.reference target) => some target
  | _ => none

theorem reference?_eq_some_iff {entry : Entry} {target : Nat} :
    entry.reference? = some target ↔ entry.attribute? .type = some (.reference target) := by
  unfold reference?
  split <;> simp_all

/-- A record that is described and not only declared. -/
def IsComplete (entry : Entry) : Prop :=
  entry.tag.isRecord = true ∧ entry.attribute? .declaration = none

instance : DecidablePred IsComplete := fun _ ↦ inferInstanceAs (Decidable (_ ∧ _))

/-- Where a member starts in its record. -/
def place (entry : Entry) : UInt64 :=
  match entry.attribute? .memberLocation with
  | some (.location (some added)) => added
  | some (.number offset) => offset
  | _ => 0

/-- The length of a dimension, which a count gives, or else the greatest index. -/
def extent (entry : Entry) : UInt64 :=
  match entry.number? .count with
  | some count => count
  | none => ((entry.number? .upperBound).map (· + 1)).getD 0

end Entry

/-- The lengths of an array with these entries below it. -/
def Forest.lengths (below : Forest) : List UInt64 :=
  (below.roots.filter (·.tag == .subrangeType)).map (·.extent)

/-! ## Units -/

/-- The forest is the one of the unit, and its entries have the form that they should have. -/
structure CompilationUnit.WellFormed (unit : CompilationUnit) (forest : Forest) : Prop where
  laidOut : unit.LaidOut forest unit.start unit.stop
  /-- A name is a text. -/
  name_text : ∀ entry ∈ forest.entries, entry.attribute? .name = entry.title?.map .text
  /-- At a position of the unit that an entry refers to stands an entry. -/
  reference_entry : ∀ entry ∈ forest.entries, ∀ target ∈ entry.reference?,
    ∃ found ∈ forest.entries, found.offset = target
  /-- A member is placed at a fixed distance from the start of its record. -/
  member_place : ∀ entry ∈ forest.entries, entry.attribute? .memberLocation ≠ some (.location none)
  /-- References from one type to the next one come to an end, a record being one. -/
  noEndlessPath : ∀ entry ∈ forest.entries, NoEndlessPath unit.Refers entry.offset
  /-- A type definition defines an identifier. -/
  definition_name : ∀ entry ∈ forest.entries, entry.tag = .typeDefinition →
    ∀ name ∈ entry.title?, TypeName.IsIdentifier name

namespace CompilationUnit.WellFormed

variable (h : unit.WellFormed forest)
include h

theorem entries_eq : unit.entries = .ok forest.entries := h.laidOut.entries_eq

theorem exists_hasEntry (hentry : entry ∈ forest.entries) : ∃ next, unit.HasEntry entry next := by
  obtain ⟨below, htree⟩ := Forest.exists_mem_subtrees hentry
  exact (h.laidOut.hasEntry_and_children htree).1

theorem entryAt_eq (hentry : entry ∈ forest.entries) : unit.entryAt entry.offset = .ok entry := by
  obtain ⟨_, hentry⟩ := h.exists_hasEntry hentry
  exact hentry.entryAt_eq

theorem eq_of_offset_eq (hentry : entry ∈ forest.entries) (hrecord : record ∈ forest.entries)
    (hoffset : entry.offset = record.offset) : entry = record := by
  have hsame := h.entryAt_eq hentry
  rw [hoffset, h.entryAt_eq hrecord] at hsame
  exact (Except.ok.inj hsame).symm

theorem children_eq (htree : (entry, below) ∈ forest.subtrees) :
    unit.children entry = .complete below.roots := (h.laidOut.hasEntry_and_children htree).2

/-! ### Reading attributes -/

theorem value_eq (hentry : entry ∈ forest.entries) (key : AttributeName) :
    entry.value key = .ok (entry.attribute? key) := by
  obtain ⟨next, hentry⟩ := h.exists_hasEntry hentry
  unfold Entry.value Entry.attribute?
  cases entry.attributes.find? (·.name == key) with
  | some found => rfl
  | none => rw [hentry.next?_eq]; rfl

theorem number_eq (hentry : entry ∈ forest.entries) (key : AttributeName) :
    entry.number key = .ok (entry.number? key) := by
  unfold Entry.number Entry.number?
  rw [h.value_eq hentry, Except.ok_bind]
  cases entry.attribute? key with
  | none => rfl
  | some value => cases value <;> rfl

theorem name_eq (hentry : entry ∈ forest.entries) : entry.name = .ok entry.title? := by
  unfold Entry.name
  rw [h.value_eq hentry, Except.ok_bind, h.name_text entry hentry]
  cases entry.title? <;> rfl

theorem attribute?_name_eq_none_iff (hentry : entry ∈ forest.entries) :
    entry.attribute? .name = none ↔ entry.title? = none := by
  rw [h.name_text entry hentry, Option.map_eq_none_iff]

/-- Where a type attribute refers to stands an entry. -/
theorem exists_entry {target : Nat} (hentry : entry ∈ forest.entries)
    (htype : entry.attribute? .type = some (.reference target)) :
    ∃ found ∈ forest.entries, found.offset = target :=
  h.reference_entry entry hentry target (Entry.reference?_eq_some_iff.2 htype)

theorem memberOffset_eq (hentry : entry ∈ forest.entries) :
    NamedUnit.memberOffset entry = .ok entry.place := by
  have hplace := h.member_place entry hentry
  unfold NamedUnit.memberOffset Entry.place
  rw [h.value_eq hentry, Except.ok_bind]
  cases hvalue : entry.attribute? .memberLocation with
  | none => rfl
  | some value =>
    cases value with
    | location added =>
      cases added with
      | some added => rfl
      | none => exact absurd hvalue hplace
    | number | text | reference | sectionOffset | addressIndex | other => rfl

theorem dimensions_eq (htree : (entry, below) ∈ forest.subtrees) :
    NamedUnit.dimensions unit entry = .ok below.lengths := by
  have hall : (unit.children entry).all = .ok below.roots := by
    rw [h.children_eq htree]
    rfl
  unfold NamedUnit.dimensions Forest.lengths
  rw [hall, Except.ok_bind]
  apply List.mapM_eq_pure
  apply List.forall₂_map_right_iff.2
  apply List.forall₂_same.2
  intro range hrange
  have hentry := Forest.mem_entries_of_mem_roots htree (List.mem_of_mem_filter hrange)
  rw [h.number_eq hentry, h.number_eq hentry]
  unfold Entry.extent
  cases range.number? .count with
  | some count => rfl
  | none => cases range.number? .upperBound <;> rfl

end CompilationUnit.WellFormed

end MemoryInspector.DebugInfo
