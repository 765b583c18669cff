import Mathlib.Data.List.Forall2
import MemoryInspector.Proofs.DebugInfo.Denotation

/-!
# Layouts of records in well-formed units

A record of a well-formed unit has one layout, of the size that its entry gives and of the members
right below it, and this layout is the one that is collected.
-/

namespace MemoryInspector.DebugInfo

variable {unit : CompilationUnit} {named : NamedUnit} {forest below : Forest}
  {entry record member : Entry} {index : Nat} {layout : RecordLayout} {field : Field}

/-! ## Fields and layouts -/

/-- A member that is a field: it has a name and is no bit field. -/
def Entry.IsField (member : Entry) : Prop :=
  member.tag = .member ∧ member.attribute? .bitSize = none ∧ member.title? ≠ none

instance : DecidablePred Entry.IsField := fun _ ↦ inferInstanceAs (Decidable (_ ∧ _ ∧ _))

/-- The member is this field. -/
structure Forest.FieldOf (forest : Forest) (index : Nat) (member : Entry) (field : Field) : Prop where
  title?_eq : member.title? = some field.name
  offset_eq : field.offset = member.place
  means : forest.Means index (member.attribute? .type) field.type

/-- The record has this layout: its size, and the members that are fields, in order. -/
structure Forest.LayoutOf (forest : Forest) (index : Nat) (record : Entry) (below : Forest)
    (layout : RecordLayout) : Prop where
  name_eq : layout.name = forest.recordName index record
  size_eq : layout.size = (record.number? .byteSize).getD 0
  fields : List.Forall₂ (forest.FieldOf index) (below.roots.filter (·.IsField)) layout.fields

theorem Forest.FieldOf.unique (hunit : unit.WellFormed forest) {other : Field}
    (h : forest.FieldOf index member field) (hother : forest.FieldOf index member other) :
    field = other := by
  obtain ⟨name, offset, type⟩ := field
  obtain ⟨otherName, otherOffset, otherType⟩ := other
  cases Option.some.inj (h.title?_eq.symm.trans hother.title?_eq)
  cases h.offset_eq.trans hother.offset_eq.symm
  cases h.means.unique hunit hother.means
  rfl

/-- A record has one layout. -/
theorem Forest.LayoutOf.unique (hunit : unit.WellFormed forest) {other : RecordLayout}
    (h : forest.LayoutOf index record below layout)
    (hother : forest.LayoutOf index record below other) : layout = other := by
  obtain ⟨name, size, fields⟩ := layout
  obtain ⟨otherName, otherSize, otherFields⟩ := other
  cases h.name_eq.trans hother.name_eq.symm
  cases h.size_eq.trans hother.size_eq.symm
  have hfield : Relator.RightUnique (forest.FieldOf index) :=
    fun _ _ _ hfirst hsecond ↦ hfirst.unique hunit hsecond
  cases List.right_unique_forall₂' hfield h.fields hother.fields
  rfl

theorem CompilationUnit.WellFormed.exists_layoutOf (h : unit.WellFormed forest) (index : Nat)
    (htree : (record, below) ∈ forest.subtrees) :
    ∃ layout, forest.LayoutOf index record below layout := by
  have hfields : ∃ fields,
      List.Forall₂ (forest.FieldOf index) (below.roots.filter (·.IsField)) fields := by
    apply List.exists_forall₂
    intro member hmember
    obtain ⟨hroot, hmember⟩ := List.mem_filter.1 hmember
    obtain ⟨-, -, htitle⟩ := of_decide_eq_true hmember
    obtain ⟨name, hname⟩ := Option.ne_none_iff_exists'.1 htitle
    obtain ⟨type, htype⟩ := h.exists_means index (Forest.mem_entries_of_mem_roots htree hroot)
    exact ⟨⟨name, member.place, type⟩, hname, rfl, htype⟩
  obtain ⟨fields, hfields⟩ := hfields
  exact ⟨⟨_, _, fields⟩, rfl, rfl, hfields⟩

/-! ## Collection -/

section Collected

variable (hnamed : named.IsFor forest)
include hnamed

/-- What a type attribute means is the referred type. -/
theorem Forest.Means.yields_referredType {type : CType}
    (h : forest.Means named.index (entry.attribute? .type) type) (hentry : entry ∈ forest.entries) :
    named.Yields (NamedUnit.referredType named.typeAt entry)
      ((entry.attribute? .type).map fun _ ↦ type) := by
  have hvalue := hnamed.wellFormed.value_eq hentry .type
  by_cases hreference : ∃ target, entry.attribute? .type = some (.reference target)
  · obtain ⟨target, htarget⟩ := hreference
    rw [htarget] at hvalue
    rw [NamedUnit.referredType_of_reference hvalue, htarget]
    exact (NamedUnit.yields_typeAt (h.resolves hnamed htarget)).bind (NamedUnit.Yields.pure _)
  · rw [not_exists] at hreference
    unfold NamedUnit.referredType
    rw [hvalue, h.eq_void hreference]
    cases hfound : entry.attribute? .type with
    | none => exact NamedUnit.Yields.pure _
    | some value =>
      cases value <;> first
        | exact NamedUnit.Yields.pure _
        | exact absurd hfound (hreference _)

theorem Forest.FieldOf.yields_fieldOf? (h : forest.FieldOf named.index member field)
    (hmember : member ∈ forest.entries) (hfield : member.IsField) :
    named.Yields (named.fieldOf? member) (some field) := by
  obtain ⟨htag, hbits, -⟩ := hfield
  have hunit := hnamed.wellFormed
  have hvalue := hunit.value_eq hmember .bitSize
  have hname := hunit.name_eq hmember
  rw [hbits] at hvalue
  rw [h.title?_eq] at hname
  have hyields := NamedUnit.yields_fieldOf? htag hvalue hname (hunit.memberOffset_eq hmember)
    (h.means.yields_referredType hnamed hmember)
  rwa [h.means.getD_eq, ← h.offset_eq] at hyields

theorem yields_fieldOf?_of_not_isField (hmember : member ∈ forest.entries)
    (hfield : ¬ member.IsField) : named.Yields (named.fieldOf? member) none := by
  have hunit := hnamed.wellFormed
  unfold NamedUnit.fieldOf?
  by_cases htag : member.tag = .member
  · rw [if_neg (not_not_intro htag), hunit.value_eq hmember, hunit.name_eq hmember]
    simp only [CachedResolving.liftM_ok, pure_bind]
    cases hbits : member.attribute? .bitSize with
    | some => exact NamedUnit.Yields.pure none
    | none =>
      cases htitle : member.title? with
      | some name => exact absurd ⟨htag, hbits, by simp [htitle]⟩ hfield
      | none => exact NamedUnit.Yields.pure none
  · rw [if_pos htag]
    exact NamedUnit.Yields.pure none

/-- Members that are no fields are left out. -/
theorem exists_yields_fieldOf? {members : List Entry} {fields : List Field}
    (hmembers : ∀ member ∈ members, member ∈ forest.entries)
    (h : List.Forall₂ (forest.FieldOf named.index) (members.filter (·.IsField)) fields) :
    ∃ results, named.Yields (members.mapM named.fieldOf?) results ∧ results.filterMap id = fields := by
  induction members generalizing fields with
  | nil =>
    cases h
    exact ⟨[], NamedUnit.Yields.pure [], rfl⟩
  | cons member rest ih =>
    obtain ⟨hmember, hrest⟩ := List.forall_mem_cons.1 hmembers
    rw [List.mapM_cons]
    by_cases hfield : member.IsField
    · rw [List.filter_cons_of_pos (by simpa using hfield)] at h
      cases h with
      | cons hfirst hothers =>
        obtain ⟨results, hresults, rfl⟩ := ih hrest hothers
        refine ⟨some _ :: results, ?_, rfl⟩
        exact (hfirst.yields_fieldOf? hnamed hmember hfield).bind
          (hresults.bind (NamedUnit.Yields.pure _))
    · rw [List.filter_cons_of_neg (by simpa using hfield)] at h
      obtain ⟨results, hresults, rfl⟩ := ih hrest h
      refine ⟨none :: results, ?_, rfl⟩
      exact (yields_fieldOf?_of_not_isField hnamed hmember hfield).bind
        (hresults.bind (NamedUnit.Yields.pure _))

theorem Forest.LayoutOf.yields_recordLayout (h : forest.LayoutOf named.index record below layout)
    (htree : (record, below) ∈ forest.subtrees) (hkind : record.tag.isRecord = true) :
    named.Yields (named.recordLayout record) layout := by
  have hunit := hnamed.wellFormed
  have hrecord := Forest.mem_entries_of_mem_subtrees htree
  obtain ⟨results, hresults, hfields⟩ := exists_yields_fieldOf? hnamed
    (fun member hmember ↦ Forest.mem_entries_of_mem_roots htree hmember) h.fields
  have hyields := NamedUnit.yields_recordLayout (hnamed.recordName_eq hrecord hkind)
    (hunit.number_eq hrecord _) (hunit.children_eq htree) hresults
  rwa [hfields, ← h.name_eq, ← h.size_eq] at hyields

end Collected

end MemoryInspector.DebugInfo
