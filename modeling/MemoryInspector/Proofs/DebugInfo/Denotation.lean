import Mathlib.Data.List.Basic
import Mathlib.Tactic.Choose
import MemoryInspector.Proofs.DebugInfo.Members
import MemoryInspector.Proofs.DebugInfo.WellFormed

/-!
# Types of well-formed units

What a type attribute of a well-formed unit means, by the entries that it leads to: each of them
adds its own part to the type, up to a record, a base type or nothing. Every type attribute has one
meaning, and the resolution of types finds it.
-/

namespace MemoryInspector.DebugInfo

open Text

variable {unit : CompilationUnit} {named : NamedUnit} {forest below : Forest}
  {entry record : Entry} {index position : Nat} {type : CType} {value? : Option AttributeValue}

/-! ## Names of records -/

/-- The name that the entry gives to a record at the position, if it is a type definition for it. -/
def Entry.nameFor? (entry : Entry) (position : Nat) : Option String :=
  if entry.tag = .typeDefinition ∧ entry.attribute? .type = some (.reference position) then
    entry.title?
  else none

/-- The name of the first type definition for the position. -/
def Forest.definedName? (forest : Forest) (position : Nat) : Option String :=
  forest.entries.findSome? (·.nameFor? position)

/-- A record has its own name, or else that of the first type definition for it, or else one of the
positions of unit and record. -/
def Forest.recordName (forest : Forest) (index : Nat) (record : Entry) : String :=
  (record.title?.or (forest.definedName? record.offset)).getD
    s!"<anonymous {decimal index}:0x{hex record.offset}>"

/-- A well-formed unit, and the names that its type definitions give to records. -/
structure NamedUnit.IsFor (named : NamedUnit) (forest : Forest) : Prop where
  wellFormed : named.unit.WellFormed forest
  recordNames_eq : ∀ record ∈ forest.entries, record.tag.isRecord = true → record.title? = none →
    named.recordNames[record.offset]? = forest.definedName? record.offset

/-- The name, if the pair is for a record at the position. -/
def nameAt? (position : Nat) (found : Option (Nat × String)) : Option String :=
  (found.filter (·.1 = position)).map Prod.snd

/-- The names with one more, unless there is one for the record. -/
def insertFound (names : Std.TreeMap Nat String) (found : Option (Nat × String)) :
    Std.TreeMap Nat String :=
  found.elim names fun pair ↦ names.insertIfNew pair.1 pair.2

theorem getElem?_insertFound (names : Std.TreeMap Nat String) (found : Option (Nat × String)) :
    (insertFound names found)[position]? = names[position]?.or (nameAt? position found) := by
  unfold insertFound nameAt?
  cases found with
  | none => exact Option.or_none.symm
  | some pair =>
    rw [Option.elim_some, Std.TreeMap.getElem?_insertIfNew]
    simp only [Std.LawfulEqCmp.compare_eq_iff_eq, Std.TreeMap.mem_iff_isSome_getElem?,
      Option.filter_some, decide_eq_true_eq]
    by_cases hplace : pair.1 = position
    · rw [hplace]
      cases names[position]? <;> simp
    · simp [hplace]

/-- The first name for a position stays. -/
theorem getElem?_foldl_insertFound {found : Entry → Option (Nat × String)}
    {name? : Entry → Option String} {entries : List Entry}
    (h : ∀ entry ∈ entries, nameAt? position (found entry) = name? entry)
    (names : Std.TreeMap Nat String) :
    (entries.foldl (fun names entry ↦ insertFound names (found entry)) names)[position]? =
      names[position]?.or (entries.findSome? name?) := by
  induction entries generalizing names with
  | nil => exact Option.or_none.symm
  | cons entry rest ih =>
    obtain ⟨hfirst, hrest⟩ := List.forall_mem_cons.1 h
    rw [List.foldl_cons, ih hrest, getElem?_insertFound, hfirst, Option.or_assoc,
      List.findSome?_cons]
    cases name? entry <;> rfl

section Names

variable (h : unit.WellFormed forest)
include h

/-- A type definition gives its name to a record without one. -/
theorem CompilationUnit.WellFormed.namedRecord?_eq (hentry : entry ∈ forest.entries) :
    ∃ found, namedRecord? unit entry = .ok found ∧
      ∀ record ∈ forest.entries, record.tag.isRecord = true → record.title? = none →
        nameAt? record.offset found = entry.nameFor? record.offset := by
  unfold namedRecord? Entry.nameFor?
  by_cases htag : entry.tag = .typeDefinition
  case neg =>
    rw [if_pos htag]
    exact ⟨none, rfl, fun _ _ _ _ ↦ (if_neg fun hboth ↦ htag hboth.1).symm⟩
  rw [if_neg (not_not_intro htag), h.value_eq hentry, h.name_eq hentry]
  simp only [Except.ok_bind, htag, true_and]
  cases hvalue : entry.attribute? .type with
  | none => exact ⟨none, rfl, fun _ _ _ _ ↦ (if_neg nofun).symm⟩
  | some value =>
    by_cases hreference : ∃ target, value = .reference target
    case neg =>
      refine ⟨none, ?_, fun _ _ _ _ ↦ (if_neg ?_).symm⟩
      · cases value <;> first | rfl | exact absurd ⟨_, rfl⟩ hreference
      · exact fun heq ↦ hreference ⟨_, Option.some.inj heq⟩
    obtain ⟨target, rfl⟩ := hreference
    obtain ⟨other, hother, rfl⟩ := h.exists_entry hentry hvalue
    have hsame : ∀ record ∈ forest.entries,
        some (AttributeValue.reference other.offset) = some (.reference record.offset) →
          other = record :=
      fun record hrecord heq ↦
        h.eq_of_offset_eq hother hrecord (AttributeValue.reference.inj (Option.some.inj heq))
    cases htitle : entry.title? with
    | none => exact ⟨none, rfl, fun _ _ _ _ ↦ (ite_self _).symm⟩
    | some name =>
      simp only [h.entryAt_eq hother, h.value_eq hother, Except.ok_bind]
      by_cases hunnamed : other.tag.isRecord = true ∧ other.title? = none
      · refine ⟨some (other.offset, name), ?_, ?_⟩
        · simp [hunnamed.1, (h.attribute?_name_eq_none_iff hother).2 hunnamed.2, pure, Except.pure]
        · intro record _ _ _
          simp only [nameAt?, Option.filter_some, Option.some.injEq, AttributeValue.reference.injEq,
            decide_eq_true_eq]
          split <;> rfl
      · refine ⟨none, ?_, ?_⟩
        · rw [← h.attribute?_name_eq_none_iff hother] at hunnamed
          cases hkind : other.tag.isRecord with
          | false => rfl
          | true =>
            rw [hkind] at hunnamed
            cases hname : other.attribute? .name with
            | none => exact absurd ⟨rfl, hname⟩ hunnamed
            | some => rfl
        · intro record hrecord hkind htitle
          refine (if_neg fun heq ↦ hunnamed ?_).symm
          rw [hsame record hrecord heq]
          exact ⟨hkind, htitle⟩

/-- The names that type definitions give to records are found. -/
theorem CompilationUnit.WellFormed.exists_isFor (index : Nat) :
    ∃ names, recordNames unit forest.entries = .ok names ∧
      (NamedUnit.mk unit index names).IsFor forest := by
  choose! found hfound hname using fun entry (hentry : entry ∈ forest.entries) ↦
    h.namedRecord?_eq hentry
  refine ⟨forest.entries.foldl (fun names entry ↦ insertFound names (found entry)) ∅, ?_, h, ?_⟩
  · apply Except.foldlM_eq_ok
    intro entry hentry names
    rw [hfound entry hentry, Except.ok_bind]
    cases found entry <;> rfl
  · intro record hrecord hkind htitle
    rw [getElem?_foldl_insertFound fun entry hentry ↦ hname entry hentry record hrecord hkind htitle,
      Std.TreeMap.getElem?_emptyc, Option.none_or, Forest.definedName?]

end Names

theorem NamedUnit.IsFor.recordName_eq (h : named.IsFor forest) (hrecord : record ∈ forest.entries)
    (hkind : record.tag.isRecord = true) :
    named.recordName record = .ok (forest.recordName named.index record) := by
  unfold NamedUnit.recordName Forest.recordName
  rw [h.wellFormed.name_eq hrecord, Except.ok_bind]
  cases htitle : record.title? with
  | some name => rfl
  | none =>
    rw [h.recordNames_eq record hrecord hkind htitle]
    rfl

/-! ## Meanings -/

/-- What the value of a type attribute means, which may be missing or lead out of the unit. -/
inductive Forest.Means (forest : Forest) (index : Nat) : Option AttributeValue → CType → Prop
  | missing : Means forest index none .void
  | outside {value : AttributeValue} (hvalue : ∀ target, value ≠ .reference target) :
      Means forest index (some value) .void
  | base {entry : Entry} (hentry : entry ∈ forest.entries) (htag : entry.tag = .baseType) :
      Means forest index (some (.reference entry.offset))
        (baseType (entry.title?.getD "") ((entry.number? .byteSize).getD 0)
          (((entry.number? .encoding).map Encoding.ofCode).getD .other))
  | pointer {entry : Entry} {type : CType} (hentry : entry ∈ forest.entries)
      (htag : entry.tag.isPointer = true) (htype : Means forest index (entry.attribute? .type) type) :
      Means forest index (some (.reference entry.offset)) (.pointer type)
  | synonym {entry : Entry} {type : CType} (hentry : entry ∈ forest.entries)
      (htag : entry.tag.isSynonym = true) (htype : Means forest index (entry.attribute? .type) type) :
      Means forest index (some (.reference entry.offset)) type
  | record {entry : Entry} (hentry : entry ∈ forest.entries) (htag : entry.tag.isRecord = true) :
      Means forest index (some (.reference entry.offset)) (.record (forest.recordName index entry))
  | enumeration {entry : Entry} {type : CType} (hentry : entry ∈ forest.entries)
      (htag : entry.tag = .enumerationType) (hvalue : entry.attribute? .type ≠ none)
      (htype : Means forest index (entry.attribute? .type) type) :
      Means forest index (some (.reference entry.offset)) type
  | untypedEnumeration {entry : Entry} (hentry : entry ∈ forest.entries)
      (htag : entry.tag = .enumerationType) (hvalue : entry.attribute? .type = none) :
      Means forest index (some (.reference entry.offset))
        (.scalar ((Scalar.integer? ((entry.number? .byteSize).getD 4).toNat false).getD .uint32))
  | array {entry : Entry} {below : Forest} {type : CType} (htree : (entry, below) ∈ forest.subtrees)
      (htag : entry.tag = .arrayType) (htype : Means forest index (entry.attribute? .type) type) :
      Means forest index (some (.reference entry.offset)) (TypeDescription.nested type below.lengths)
  | untyped {entry : Entry} (hentry : entry ∈ forest.entries)
      (htag : entry.tag ∈ [Tag.member, .subrangeType, .other]) :
      Means forest index (some (.reference entry.offset)) .void

namespace Forest.Means

theorem getD_eq (h : forest.Means index value? type) :
    (value?.map fun _ ↦ type).getD .void = type := by
  cases h <;> rfl

theorem eq_void (h : forest.Means index value? type)
    (hvalue : ∀ target, value? ≠ some (.reference target)) : type = .void := by
  cases h <;> first | rfl | exact absurd rfl (hvalue _)

theorem of_base (hentry : entry ∈ forest.entries) (htag : entry.tag = .baseType)
    (htype : baseType (entry.title?.getD "") ((entry.number? .byteSize).getD 0)
      (((entry.number? .encoding).map Encoding.ofCode).getD .other) = type) :
    forest.Means index (some (.reference entry.offset)) type :=
  htype ▸ .base hentry htag

/-- An entry that refers to another one has the type that it makes of the meaning. -/
theorem resolves_of_refers {referred : CType} (hnamed : named.IsFor forest)
    (hentry : entry ∈ forest.entries) (hrefers : entry.tag.refers = true)
    (h : forest.Means named.index (entry.attribute? .type) referred)
    (hreferred : ∀ target, entry.attribute? .type = some (.reference target) →
      named.Resolves target referred)
    (htype : ∀ typeAt,
      NamedUnit.referredType typeAt entry = pure ((entry.attribute? .type).map fun _ ↦ referred) →
        named.entryType typeAt entry = pure type) :
    named.Resolves entry.offset type := by
  apply resolves_of_value (hnamed.wellFormed.entryAt_eq hentry) hrefers
    (hnamed.wellFormed.value_eq hentry .type) hreferred _ htype
  intro value hvalue houtside
  exact h.eq_void fun target htarget ↦ houtside target (Option.some.inj (hvalue.symm.trans htarget))

/-- An entry that refers to no other one has the type of its own. -/
theorem resolves_of_not_refers (hnamed : named.IsFor forest) (hentry : entry ∈ forest.entries)
    (hrefers : entry.tag.refers = false)
    (htype : ∀ typeAt, named.entryType typeAt entry = pure type) :
    named.Resolves entry.offset type := by
  apply NamedUnit.Resolves.alone (hnamed.wellFormed.entryAt_eq hentry)
  · unfold Entry.target?
    rw [hrefers]
    rfl
  · exact htype _

/-- A type that is meant is the type at its position. -/
theorem resolves (hnamed : named.IsFor forest) (h : forest.Means named.index value? type)
    (hvalue : value? = some (.reference position)) : named.Resolves position type := by
  have hunit := hnamed.wellFormed
  induction h generalizing position with
  | missing => cases hvalue
  | outside houtside => exact absurd (Option.some.inj hvalue) (houtside position)
  | base hentry htag =>
    cases hvalue
    apply resolves_of_not_refers hnamed hentry (by rw [htag]; rfl)
    exact NamedUnit.entryType_base htag (hunit.name_eq hentry) (hunit.number_eq hentry _)
      (hunit.number_eq hentry _)
  | pointer hentry htag htype ih =>
    cases hvalue
    apply resolves_of_refers hnamed hentry (Tag.refers_of_isPointer htag) htype fun _ ↦ ih
    intro typeAt hfound
    rw [NamedUnit.entryType_pointer hfound htag, htype.getD_eq]
  | synonym hentry htag htype ih =>
    cases hvalue
    apply resolves_of_refers hnamed hentry (Tag.refers_of_isSynonym htag) htype fun _ ↦ ih
    intro typeAt hfound
    rw [NamedUnit.entryType_synonym hfound htag, htype.getD_eq]
  | record hentry htag =>
    cases hvalue
    apply resolves_of_not_refers hnamed hentry (Tag.refers_of_isRecord htag)
    exact NamedUnit.entryType_record htag (hnamed.recordName_eq hentry htag)
  | @enumeration entry type hentry htag hsome htype ih =>
    cases hvalue
    apply resolves_of_refers hnamed hentry (by rw [htag]; rfl) htype fun _ ↦ ih
    intro typeAt hfound
    rw [NamedUnit.entryType_enumeration hfound htag (hunit.number_eq hentry _)]
    obtain ⟨value, hvalue⟩ := Option.ne_none_iff_exists'.1 hsome
    rw [hvalue]
    rfl
  | @untypedEnumeration entry hentry htag hnone =>
    cases hvalue
    have hvoid : forest.Means named.index (entry.attribute? .type) .void := hnone ▸ .missing
    apply resolves_of_refers hnamed hentry (by rw [htag]; rfl) hvoid
    · intro target htarget
      cases hnone.symm.trans htarget
    · intro typeAt hfound
      rw [NamedUnit.entryType_enumeration hfound htag (hunit.number_eq hentry _), hnone]
      rfl
  | array htree htag htype ih =>
    cases hvalue
    have hentry := Forest.mem_entries_of_mem_subtrees htree
    apply resolves_of_refers hnamed hentry (by rw [htag]; rfl) htype fun _ ↦ ih
    intro typeAt hfound
    rw [NamedUnit.entryType_array hfound htag (hunit.dimensions_eq htree), htype.getD_eq,
      arrayOf_eq_nested]
  | @untyped entry hentry htag =>
    cases hvalue
    apply resolves_of_not_refers hnamed hentry
    · cases hkind : entry.tag <;> rw [hkind] at htag <;> first | rfl | exact absurd htag (by decide)
    · intro typeAt
      unfold NamedUnit.entryType
      cases hkind : entry.tag <;> rw [hkind] at htag <;> first | rfl | exact absurd htag (by decide)

/-- A type attribute has one meaning. -/
theorem unique {other : CType} (hunit : unit.WellFormed forest)
    (h : forest.Means index value? type) (hother : forest.Means index value? other) :
    type = other := by
  obtain ⟨names, -, hnamed⟩ := hunit.exists_isFor index
  by_cases hvalue : ∃ target, value? = some (.reference target)
  · obtain ⟨target, hvalue⟩ := hvalue
    exact (h.resolves hnamed hvalue).unique (hother.resolves hnamed hvalue)
  · rw [not_exists] at hvalue
    rw [h.eq_void hvalue, hother.eq_void hvalue]

end Forest.Means

theorem Forest.exists_means_of_reference
    (h : ∀ target, value? = some (.reference target) →
      ∃ type, forest.Means index (some (.reference target)) type) :
    ∃ type, forest.Means index value? type := by
  cases value? with
  | none => exact ⟨.void, .missing⟩
  | some value =>
    by_cases hreference : ∃ target, value = .reference target
    · obtain ⟨target, rfl⟩ := hreference
      exact h target rfl
    · exact ⟨.void, .outside (not_exists.1 hreference)⟩

namespace CompilationUnit.WellFormed

variable (h : unit.WellFormed forest)
include h

/-- At the position of an entry there is a type. -/
theorem exists_means_reference (index : Nat) (hentry : entry ∈ forest.entries) :
    ∃ type, forest.Means index (some (.reference entry.offset)) type := by
  have hacc := NoEndlessPath.iff_acc.1 (h.noEndlessPath entry hentry)
  generalize hposition : entry.offset = position at hacc
  induction hacc generalizing entry with
  | intro position _ ih =>
    subst hposition
    have hreferred : entry.tag.refers = true →
        ∃ type, forest.Means index (entry.attribute? .type) type := by
      intro hrefers
      apply Forest.exists_means_of_reference
      intro target htarget
      obtain ⟨other, hother, rfl⟩ := h.exists_entry hentry htarget
      have hvalue : entry.value .type = .ok (some (.reference other.offset)) := by
        rw [h.value_eq hentry, htarget]
      have htarget? := Entry.target?_eq_some_iff.2 ⟨hrefers, hvalue⟩
      exact ih _ ⟨entry, h.entryAt_eq hentry, htarget?⟩ hother rfl
    cases htag : entry.tag with
    | baseType => exact ⟨_, .base hentry htag⟩
    | structureType | unionType | classType => exact ⟨_, .record hentry (by rw [htag]; rfl)⟩
    | pointerType | referenceType =>
      obtain ⟨type, htype⟩ := hreferred (by rw [htag]; rfl)
      exact ⟨_, .pointer hentry (by rw [htag]; rfl) htype⟩
    | typeDefinition | constType | volatileType | restrictType | atomicType =>
      obtain ⟨type, htype⟩ := hreferred (by rw [htag]; rfl)
      exact ⟨_, .synonym hentry (by rw [htag]; rfl) htype⟩
    | enumerationType =>
      obtain ⟨type, htype⟩ := hreferred (by rw [htag]; rfl)
      by_cases hvalue : entry.attribute? .type = none
      · exact ⟨_, .untypedEnumeration hentry htag hvalue⟩
      · exact ⟨_, .enumeration hentry htag hvalue htype⟩
    | arrayType =>
      obtain ⟨type, htype⟩ := hreferred (by rw [htag]; rfl)
      obtain ⟨below, htree⟩ := Forest.exists_mem_subtrees hentry
      exact ⟨_, .array htree htag htype⟩
    | member | subrangeType | other => exact ⟨_, .untyped hentry (by rw [htag]; decide)⟩

/-- The type attribute of an entry means something. -/
theorem exists_means (index : Nat) (hentry : entry ∈ forest.entries) :
    ∃ type, forest.Means index (entry.attribute? .type) type := by
  apply Forest.exists_means_of_reference
  intro target htarget
  obtain ⟨other, hother, rfl⟩ := h.exists_entry hentry htarget
  exact h.exists_means_reference index hother

end CompilationUnit.WellFormed

end MemoryInspector.DebugInfo
