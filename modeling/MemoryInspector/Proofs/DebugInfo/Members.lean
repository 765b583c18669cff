import MemoryInspector.Proofs.DebugInfo.Description
import MemoryInspector.Proofs.DebugInfo.Resolution

/-!
# Members of described records

A described type is the type at the position of its entry, so the layout of a described record is
found from any cache that is sound.
-/

namespace MemoryInspector.DebugInfo

variable {unit : CompilationUnit} {named : NamedUnit} {tops below : Forest} {entry : Entry}
  {position? : Option Nat} {position start stop : Nat}

/-! ## Types of members -/

theorem arrayOf_eq_nested (element : CType) (lengths : List UInt64) :
    NamedUnit.arrayOf element lengths = TypeDescription.nested element lengths := by
  induction lengths with
  | nil => rfl
  | cons length rest ih => exact congrArg (CType.array · length) ih

theorem DimensionEntry.tag_eq {length : UInt64} (h : DimensionEntry entry length) :
    entry.tag = .subrangeType := by
  cases h <;> assumption

theorem dimensions_eq {ranges : List Entry} {lengths : List UInt64}
    (hchildren : unit.children entry = .complete ranges)
    (h : List.Forall₂ DimensionEntry ranges lengths) :
    NamedUnit.dimensions unit entry = .ok lengths := by
  have hranges : ranges.filter (·.tag == .subrangeType) = ranges := by
    clear hchildren
    induction h with
    | nil => rfl
    | cons hlength _ ih => rw [List.filter_cons_of_pos (by rw [hlength.tag_eq]; rfl), ih]
  unfold NamedUnit.dimensions
  have hall : (unit.children entry).all = .ok ranges := by
    rw [hchildren]
    rfl
  rw [hall, Except.ok_bind]
  dsimp only
  rw [hranges]
  apply List.mapM_eq_pure
  apply h.imp
  intro range length hlength
  cases hlength with
  | counted _ hcount =>
    rw [hcount]
    rfl
  | bounded _ hcount _ hbound =>
    rw [hcount, hbound]
    exact congrArg Except.ok (UInt64.sub_add_cancel length 1)
  | unbounded _ hcount hempty hbound =>
    rw [hcount, hbound, hempty]
    rfl

/-- Where there is no position, the type is `void`. -/
theorem Denotes.getD_ctype {type : TypeDescription} (h : Denotes tops position? type) :
    (position?.map fun _ ↦ type.ctype).getD .void = type.ctype := by
  cases h <;> rfl

theorem Tag.refers_of_isRecord {tag : Tag} (h : tag.isRecord = true) : tag.refers = false := by
  cases tag <;> first | rfl | exact absurd h Bool.false_ne_true

theorem NamedUnit.recordName_eq {name : String} (h : entry.name = .ok (some name)) :
    named.recordName entry = .ok name := by
  unfold recordName
  rw [h]
  rfl

/-- The type of an entry that may refer to another one. References out of the unit are to `void`. -/
theorem resolves_of_value {value? : Option AttributeValue} {referred type : CType}
    (hentry : named.unit.entryAt position = .ok entry) (hrefers : entry.tag.refers = true)
    (hvalue : entry.value .type = .ok value?)
    (hreferred : ∀ target, value? = some (.reference target) → named.Resolves target referred)
    (houtside : ∀ value, value? = some value → (∀ target, value ≠ .reference target) →
      referred = .void)
    (htype : ∀ typeAt, NamedUnit.referredType typeAt entry = pure (value?.map fun _ ↦ referred) →
      named.entryType typeAt entry = pure type) :
    named.Resolves position type := by
  have halone : (∀ target, value? ≠ some (.reference target)) →
      (∀ typeAt, NamedUnit.referredType typeAt entry = pure (value?.map fun _ ↦ referred)) →
      named.Resolves position type := by
    intro htarget hfound
    apply NamedUnit.Resolves.alone hentry
    · apply Option.eq_none_iff_forall_ne_some.2
      intro target heq
      have hother := (Entry.target?_eq_some_iff.1 heq).2
      exact htarget target (Except.ok.inj (hvalue.symm.trans hother))
    · exact htype _ (hfound _)
  cases value? with
  | none =>
    apply halone nofun
    intro typeAt
    unfold NamedUnit.referredType
    rw [hvalue]
    rfl
  | some value =>
    by_cases hreference : ∃ target, value = .reference target
    · obtain ⟨target, rfl⟩ := hreference
      apply NamedUnit.Resolves.through hentry (Entry.target?_eq_some_iff.2 ⟨hrefers, hvalue⟩)
        (hreferred target rfl)
      apply htype
      rw [NamedUnit.referredType_of_reference hvalue]
      rfl
    · rw [not_exists] at hreference
      apply halone fun target heq ↦ hreference target (Option.some.inj heq)
      intro typeAt
      unfold NamedUnit.referredType
      rw [hvalue, houtside value rfl hreference]
      cases value <;> first | rfl | exact absurd rfl (hreference _)

/-- The type of a described entry that refers to another one. -/
theorem resolves_of_refersTo {referred type : CType}
    (hentry : named.unit.entryAt position = .ok entry) (hrefers : entry.tag.refers = true)
    (hposition : entry.RefersTo position?)
    (hreferred : ∀ target, position? = some target → named.Resolves target referred)
    (htype : ∀ typeAt, NamedUnit.referredType typeAt entry = pure (position?.map fun _ ↦ referred) →
      named.entryType typeAt entry = pure type) :
    named.Resolves position type := by
  apply resolves_of_value hentry hrefers hposition
  · intro target htarget
    obtain ⟨_, hsome, ⟨⟩⟩ := Option.map_eq_some_iff.1 htarget
    exact hreferred target hsome
  · intro value hvalue houtside
    obtain ⟨position, -, rfl⟩ := Option.map_eq_some_iff.1 hvalue
    exact absurd rfl (houtside position)
  · intro typeAt hfound
    rw [Option.map_map] at hfound
    exact htype typeAt hfound

/-- A described type is the type at the position of its entry. -/
theorem Denotes.resolves {type : TypeDescription} (hlaid : named.unit.LaidOut tops start stop)
    (h : Denotes tops position? type) (hposition : position? = some position) :
    named.Resolves position type.ctype := by
  induction h generalizing position with
  | void => cases hposition
  | @base entry below kind name code htree htag hentry hname hsize hencoding hcode =>
    cases hposition
    apply NamedUnit.Resolves.alone (hlaid.entryAt_and_children htree).1
    · unfold Entry.target?
      rw [htag]
      rfl
    · rw [NamedUnit.entryType_base htag hentry hsize hencoding]
      exact congrArg pure (baseType_eq hname hcode)
  | pointer htree htag hrefers htarget ih =>
    cases hposition
    have hentry := (hlaid.entryAt_and_children htree).1
    apply resolves_of_refersTo hentry (by rw [htag]; rfl) hrefers (fun _ ↦ ih)
    intro typeAt hfound
    rw [NamedUnit.entryType_pointer hfound (by rw [htag]; rfl), htarget.getD_ctype]
    rfl
  | array htree htag hrefers helement hlengths ih =>
    cases hposition
    obtain ⟨hentry, hchildren⟩ := hlaid.entryAt_and_children htree
    apply resolves_of_refersTo hentry (by rw [htag]; rfl) hrefers (fun _ ↦ ih)
    intro typeAt hfound
    rw [NamedUnit.entryType_array hfound htag (dimensions_eq hchildren hlengths),
      helement.getD_ctype, arrayOf_eq_nested]
    rfl
  | @qualified entry below position qualifier type htree htag hrefers htype ih =>
    cases hposition
    have hentry := (hlaid.entryAt_and_children htree).1
    apply resolves_of_refersTo hentry (by rw [htag]; cases qualifier <;> rfl) hrefers (fun _ ↦ ih)
    intro typeAt hfound
    rw [NamedUnit.entryType_synonym hfound (by rw [htag]; cases qualifier <;> rfl),
      htype.getD_ctype]
    rfl
  | definition htree htag hname hrefers htype ih =>
    cases hposition
    have hentry := (hlaid.entryAt_and_children htree).1
    apply resolves_of_refersTo hentry (by rw [htag]; rfl) hrefers (fun _ ↦ ih)
    intro typeAt hfound
    rw [NamedUnit.entryType_synonym hfound (by rw [htag]; rfl), htype.getD_ctype]
    rfl
  | record htree hrecord hname =>
    cases hposition
    apply NamedUnit.Resolves.alone (hlaid.entryAt_and_children htree).1
    · unfold Entry.target?
      rw [if_neg (by rw [Tag.refers_of_isRecord hrecord]; exact Bool.false_ne_true)]
    · exact NamedUnit.entryType_record hrecord (NamedUnit.recordName_eq hname) _

/-- A member is of the described type. -/
theorem yields_referredType {type : TypeDescription} (hlaid : named.unit.LaidOut tops start stop)
    (hposition : entry.RefersTo position?) (h : Denotes tops position? type) :
    named.Yields (NamedUnit.referredType named.typeAt entry) (position?.map fun _ ↦ type.ctype) := by
  unfold Entry.RefersTo at hposition
  cases position? with
  | none =>
    unfold NamedUnit.referredType
    rw [hposition]
    exact NamedUnit.Yields.pure none
  | some position =>
    rw [NamedUnit.referredType_of_reference hposition]
    exact (NamedUnit.yields_typeAt (h.resolves hlaid rfl)).bind (NamedUnit.Yields.pure _)

/-! ## Members and layouts -/

theorem Entry.Places.memberOffset_eq {offset : UInt64} (h : entry.Places offset) :
    NamedUnit.memberOffset entry = .ok offset := by
  unfold NamedUnit.memberOffset
  cases h with
  | number hvalue =>
    rw [hvalue]
    rfl
  | location hvalue =>
    rw [hvalue]
    rfl
  | start hmissing hstart =>
    rw [hmissing, hstart]
    rfl

theorem MemberEntry.yields_fieldOf? {member : MemberDescription}
    (hlaid : named.unit.LaidOut tops start stop) (h : MemberEntry tops entry member) :
    named.Yields (named.fieldOf? entry) (some member.field) := by
  obtain ⟨position, hposition, htype⟩ := h.denotes
  have hfield := NamedUnit.yields_fieldOf? h.tag_eq h.bitSize_eq h.name_eq h.places.memberOffset_eq
    (yields_referredType hlaid hposition htype)
  rwa [htype.getD_ctype] at hfield

theorem RecordEntry.yields_recordLayout {record : RecordDescription}
    (hlaid : named.unit.LaidOut tops start stop) (htree : (entry, below) ∈ tops.trees)
    (h : RecordEntry tops entry below record) :
    named.Yields (named.recordLayout entry) record.layout := by
  have hfields : named.Yields (below.roots.mapM named.fieldOf?)
      (record.members.map fun member ↦ some member.field) := by
    apply NamedUnit.Yields.mapM
    apply List.forall₂_map_right_iff.2
    exact h.members.imp fun _ _ hmember ↦ hmember.yields_fieldOf? hlaid
  have hlayout : (record.members.map fun member ↦ some member.field).filterMap id =
      record.members.map (·.field) := by
    rw [List.filterMap_map]
    exact congrFun (List.filterMap_eq_map (f := MemberDescription.field)) record.members
  have hyields := NamedUnit.yields_recordLayout (NamedUnit.recordName_eq h.name_eq) h.size_eq
    (hlaid.entryAt_and_children htree).2 hfields
  rwa [hlayout] at hyields

end MemoryInspector.DebugInfo
