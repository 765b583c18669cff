import MemoryInspector.Proofs.DebugInfo.TypeDefinition

/-!
# Records that a type definition names

A record without a tag takes the name of a type definition for it. In C that name may be the tag of
another record as well, but a registry has one kind of names for all records, and of two records with
the same name it has the first one.
-/

namespace MemoryInspector.DebugInfo

open Text

section Names

variable {unit : CompilationUnit} {forest below : Forest} {entry record other : Entry}
  {name : String} {layout : RecordLayout} {index position : Nat}

/-! ## Names of records -/

theorem Entry.nameFor?_eq_some_iff : entry.nameFor? position = some name ↔
    entry.tag = .typeDefinition ∧ entry.attribute? .type = some (.reference position) ∧
      entry.title? = some name := by
  unfold nameFor?
  split <;> simp_all

/-- The tag of a record that is described. -/
def Entry.completeTag? (entry : Entry) : Option String :=
  if entry.IsComplete then entry.title? else none

def Forest.recordTags (forest : Forest) : List String := forest.entries.filterMap (·.completeTag?)

/-- A record that is named by a type definition, and the name. -/
structure Forest.NamesRecord (forest : Forest) (record : Entry) (name : String) : Prop where
  title?_eq : record.title? = none
  definition : ∃ entry ∈ forest.entries, entry.nameFor? record.offset = some name
  definedName?_eq : forest.definedName? record.offset = some name

theorem Forest.recordName_of_title? (htitle : record.title? = some name) :
    forest.recordName index record = name := by
  unfold Forest.recordName
  rw [htitle]
  rfl

theorem Forest.NamesRecord.recordName_eq (h : forest.NamesRecord record name) (index : Nat) :
    forest.recordName index record = name := by
  unfold Forest.recordName
  rw [h.title?_eq, h.definedName?_eq]
  rfl

/-- A type definition for a record without a tag names it, unless an earlier one does. -/
theorem exists_namesRecord (hentry : entry ∈ forest.entries)
    (hname : entry.nameFor? record.offset = some name) (htitle : record.title? = none) :
    ∃ first, forest.NamesRecord record first := by
  cases hfirst : forest.definedName? record.offset with
  | none =>
    have hnone := List.findSome?_eq_none_iff.1 hfirst entry hentry
    cases hnone.symm.trans hname
  | some first =>
    obtain ⟨definition, hdefinition, hfound⟩ := List.exists_of_findSome?_eq_some hfirst
    exact ⟨first, htitle, ⟨definition, hdefinition, hfound⟩, hfirst⟩

section WellFormed

variable (h : unit.WellFormed forest)
include h

theorem Forest.NamesRecord.isIdentifier (hname : forest.NamesRecord record name) :
    TypeName.IsIdentifier name := by
  obtain ⟨entry, hentry, hfound⟩ := hname.definition
  obtain ⟨htag, -, htitle⟩ := Entry.nameFor?_eq_some_iff.1 hfound
  exact h.definition_name entry hentry htag name htitle

/-- A name that a type definition gives to a record is the name of no other record without a tag. -/
theorem Forest.NamesRecord.eq_of_recordName_eq (hnames : forest.definitionNames.Nodup)
    (hname : forest.NamesRecord record name) (hrecord : record ∈ forest.entries)
    (hother : other ∈ forest.entries) (htitle : other.title? = none)
    (hsame : forest.recordName index other = name) : other = record := by
  unfold Forest.recordName at hsame
  rw [htitle, Option.none_or] at hsame
  cases hdefined : forest.definedName? other.offset with
  | none =>
    -- The name of a record without a type definition is no identifier.
    have hmem : '<' ∈ name.toList := by
      rw [← hsame, hdefined]
      simp [toString]
    rcases (hname.isIdentifier h).mem_cases hmem with hblank | hword
    · exact absurd hblank (by decide)
    · exact absurd hword (by decide)
  | some found =>
    rw [hdefined] at hsame
    cases hsame
    obtain ⟨entry, hentry, hfound⟩ := hname.definition
    obtain ⟨entry', hentry', hfound'⟩ := List.exists_of_findSome?_eq_some hdefined
    obtain ⟨htag, htarget, hentryName⟩ := Entry.nameFor?_eq_some_iff.1 hfound
    obtain ⟨htag', htarget', hentryName'⟩ := Entry.nameFor?_eq_some_iff.1 hfound'
    cases eq_of_nodup_filterMap hnames hentry hentry' ((if_pos htag).trans hentryName)
      ((if_pos htag').trans hentryName')
    have hoffset : record.offset = other.offset :=
      AttributeValue.reference.inj (Option.some.inj (htarget.symm.trans htarget'))
    exact h.eq_of_offset_eq hother hrecord hoffset.symm

/-- A record of that name is the one that is named, or has the name as its tag. -/
theorem Forest.NamesRecord.eq_or_title? (hnames : forest.definitionNames.Nodup)
    (hname : forest.NamesRecord record name) (hrecord : record ∈ forest.entries)
    (hother : other ∈ forest.entries) (hsame : forest.recordName index other = name) :
    other = record ∨ other.title? = some name := by
  cases htitle : other.title? with
  | none => exact .inl (hname.eq_of_recordName_eq h hnames hrecord hother htitle hsame)
  | some title => exact .inr (congrArg some ((Forest.recordName_of_title? htitle).symm.trans hsame))

/-- The record that is named has the first layout of the name if all records before it with the name
as their tag have the same one. -/
theorem Forest.NamesRecord.exists_firstRecord_iff (hnames : forest.definitionNames.Nodup)
    (htags : forest.recordTags.Nodup) (hname : forest.NamesRecord record name)
    (htree : (record, below) ∈ forest.subtrees) (hcomplete : record.IsComplete)
    (hlayout : forest.LayoutOf index record below layout) :
    (∃ first inner, (first, inner) ∈ forest.subtrees ∧ forest.FirstRecord index name first ∧
        forest.LayoutOf index first inner layout) ↔
      ∀ other inner, (other, inner) ∈ forest.subtrees → other.offset < record.offset →
        other.IsComplete → other.title? = some name → forest.LayoutOf index other inner layout := by
  have hrecord := Forest.mem_entries_of_mem_subtrees htree
  constructor
  · rintro ⟨first, inner, hfirst, hproperty, hfirstLayout⟩ other below' hother hlt hkind htitle
    have hfirstEntry := Forest.mem_entries_of_mem_subtrees hfirst
    have hotherEntry := Forest.mem_entries_of_mem_subtrees hother
    rcases hname.eq_or_title? h hnames hrecord hfirstEntry hproperty.name_eq with rfl | htitle'
    · exact absurd (Forest.recordName_of_title? htitle)
        (hproperty.first other hotherEntry hlt hkind)
    · have hsame : first = other := eq_of_nodup_filterMap htags hfirstEntry hotherEntry
        ((if_pos hproperty.isComplete).trans htitle') ((if_pos hkind).trans htitle)
      cases h.laidOut.eq_of_offset_eq hfirst hother (congrArg Entry.offset hsame)
      exact hfirstLayout
  · intro hearlier
    obtain ⟨first, hfirst, hproperty, hle⟩ :=
      Forest.exists_firstRecord hrecord hcomplete (hname.recordName_eq index)
    obtain ⟨inner, hinner⟩ := Forest.exists_mem_subtrees hfirst
    refine ⟨first, inner, hinner, hproperty, ?_⟩
    rcases Nat.lt_or_eq_of_le hle with hlt | heq
    · rcases hname.eq_or_title? h hnames hrecord hfirst hproperty.name_eq with rfl | htitle
      · exact absurd hlt (Nat.lt_irrefl _)
      · exact hearlier first inner hinner hlt hproperty.isComplete htitle
    · cases h.laidOut.eq_of_offset_eq hinner htree heq
      exact hlayout

end WellFormed

end Names

/-! ## Layouts -/

/-- A base type is no record. -/
theorem Forest.not_means_record_of_baseType {unit : CompilationUnit} {forest : Forest} {base : Entry}
    {name : String} (h : unit.WellFormed forest) (hbase : base ∈ forest.entries)
    (htag : base.tag = .baseType) :
    ¬ forest.Means 0 (some (.reference base.offset)) (.record name) := by
  intro hmeans
  have hsame := hmeans.unique h (.base hbase htag)
  unfold baseType at hsame
  split at hsame
  · cases hsame
  · split at hsame <;> cases hsame

/-- A type definition of a record without a tag stands for a record, unless a base type declares the
name first, and its name is resolved to the record unless it means something in every registry. The
layout of the record in the registry is that of the record without a tag except exactly if an earlier
record has the name as its tag and is different from it. -/
theorem record_of_unnamed_iff {unit : CompilationUnit} {forest : Forest}
    (h : unit.WellFormed forest) (hnames : forest.definitionNames.Nodup)
    (htags : forest.recordTags.Nodup) :
    ∃ types, registryOf [unit] = pure types ∧ ∀ entry ∈ forest.entries, ∀ record below name,
      entry.tag = .typeDefinition → entry.title? = some name →
      entry.attribute? .type = some (.reference record.offset) →
      (record, below) ∈ forest.subtrees → record.IsComplete → record.title? = none →
      ∃ layout, forest.LayoutOf 0 record below layout ∧
        (types.definition? name = some (.record layout.name) ↔
          ∀ base ∈ forest.entries, base.tag = .baseType → ¬ forest.FirstName name base) ∧
        (types.resolve name = .ok (.record layout.name) ↔ Registry.builtIn? name = none ∧
          ∀ base ∈ forest.entries, base.tag = .baseType → ¬ forest.FirstName name base) ∧
        (types.record? layout.name = some layout ↔
          ∀ other inner, (other, inner) ∈ forest.subtrees → other.offset < record.offset →
            other.IsComplete → other.title? = some layout.name →
              forest.LayoutOf 0 other inner layout) := by
  obtain ⟨types, htypes, hrecord?, hdefinition⟩ := h.exists_registry
  refine ⟨types, htypes, ?_⟩
  intro entry hentry record below name htag hname htarget htree hcomplete htitle
  have hrecord := Forest.mem_entries_of_mem_subtrees htree
  obtain ⟨first, hfirst⟩ := exists_namesRecord hentry
    (Entry.nameFor?_eq_some_iff.2 ⟨htag, htarget, hname⟩) htitle
  obtain ⟨layout, hlayout⟩ := h.exists_layoutOf 0 htree
  have hlayoutName : layout.name = first := hlayout.name_eq.trans (hfirst.recordName_eq 0)
  have hmeans : forest.Means 0 (entry.attribute? .type) (.record layout.name) := by
    rw [hlayout.name_eq, htarget]
    exact .record hrecord hcomplete.1
  have hdeclared : types.definition? name = some (.record layout.name) ↔
      ∀ base ∈ forest.entries, base.tag = .baseType → ¬ forest.FirstName name base := by
    rw [h.definition?_eq_some_iff hnames hdefinition hentry htag hname hmeans]
    refine forall₃_congr fun base hbase hkind ↦ forall_congr' fun _ ↦ iff_false_intro ?_
    exact Forest.not_means_record_of_baseType h hbase hkind
  refine ⟨layout, hlayout, hdeclared, ?_, ?_⟩
  · rw [← hdeclared, Registry.resolve_isIdentifier_iff
      (h.definition_name entry hentry htag name hname), Registry.baseType?_eq]
    obtain ⟨stored, hstored⟩ := h.exists_definition? hdefinition hentry
      (Entry.declaredName?_of_typeDefinition htag hname)
    cases hbuiltIn : Registry.builtIn? name with
    | none => simp [hstored]
    | some known => simpa [hbuiltIn] using Registry.builtIn?_ne_record name layout.name
  · rw [hrecord?, hlayoutName]
    exact hfirst.exists_firstRecord_iff h hnames htags htree hcomplete hlayout

namespace Pair

/-! ## A tag and a type definition of the same name -/

def unnamed (offset : Nat) : Entry := Short.entry offset .structureType true [(.byteSize, .number 8)]

def unnamedMembers (offset : Nat) : Forest :=
  .cons (Short.member offset "first" 0 1) .nil <|
    .cons (Short.member (offset + 1) "second" 4 1) .nil .nil

def tagged (offset : Nat) : Entry :=
  Short.entry offset .structureType true [(.name, .text "pair"), (.byteSize, .number 4)]

def taggedMembers (offset : Nat) : Forest := .cons (Short.member offset "only" 0 1) .nil .nil

/-- The record without a tag stands first. -/
def unnamedFirst : Forest :=
  .cons Short.root (.cons (Short.base 1 "int" 4 5) .nil <| .cons (unnamed 2) (unnamedMembers 3) <|
    .cons (Short.definition 6 "pair" 2) .nil <| .cons (tagged 7) (taggedMembers 8) .nil) .nil

/-- The record with the tag stands first. -/
def taggedFirst : Forest :=
  .cons Short.root (.cons (Short.base 1 "int" 4 5) .nil <| .cons (tagged 2) (taggedMembers 3) <|
    .cons (unnamed 5) (unnamedMembers 6) <| .cons (Short.definition 9 "pair" 5) .nil .nil) .nil

def unit (forest : Forest) : CompilationUnit := forest.unit 11

theorem laidOut_unnamedFirst : (unit unnamedFirst).LaidOut unnamedFirst 0 11 :=
  Forest.laidOut_unit (by decide) rfl

theorem laidOut_taggedFirst : (unit taggedFirst).LaidOut taggedFirst 0 11 :=
  Forest.laidOut_unit (by decide) rfl

theorem wellFormed_unnamedFirst : (unit unnamedFirst).WellFormed unnamedFirst where
  laidOut := laidOut_unnamedFirst
  name_text := by decide
  reference_entry := by decide
  member_place := by decide
  noEndlessPath _ _ := CompilationUnit.noEndlessPath id (by decide)
  definition_name := by decide +kernel

theorem wellFormed_taggedFirst : (unit taggedFirst).WellFormed taggedFirst where
  laidOut := laidOut_taggedFirst
  name_text := by decide
  reference_entry := by decide
  member_place := by decide
  noEndlessPath _ _ := CompilationUnit.noEndlessPath id (by decide)
  definition_name := by decide +kernel

def unnamedLayout : RecordLayout :=
  ⟨"pair", 8, [⟨"first", 0, .scalar .int32⟩, ⟨"second", 4, .scalar .int32⟩]⟩

def taggedLayout : RecordLayout := ⟨"pair", 4, [⟨"only", 0, .scalar .int32⟩]⟩

section Layouts

variable {forest : Forest} {offset place : Nat} (hint : Short.base 1 "int" 4 5 ∈ forest.entries)
include hint

theorem int_means : forest.Means 0 (some (.reference 1)) (.scalar .int32) :=
  .of_base hint rfl (by decide)

theorem unnamed_layoutOf (hname : forest.recordName 0 (unnamed offset) = "pair") :
    forest.LayoutOf 0 (unnamed offset) (unnamedMembers place) unnamedLayout where
  name_eq := hname.symm
  size_eq := rfl
  fields := .cons ⟨rfl, rfl, int_means hint⟩ (.cons ⟨rfl, rfl, int_means hint⟩ .nil)

theorem tagged_layoutOf :
    forest.LayoutOf 0 (tagged offset) (taggedMembers place) taggedLayout where
  name_eq := rfl
  size_eq := rfl
  fields := .cons ⟨rfl, rfl, int_means hint⟩ .nil

end Layouts

end Pair

theorem record_of_unnamed_iff_pair :
    (Pair.unit Pair.unnamedFirst).WellFormed Pair.unnamedFirst ∧
      Pair.unnamedFirst.definitionNames.Nodup ∧ Pair.unnamedFirst.recordTags.Nodup ∧
      ∃ types, registryOf [Pair.unit Pair.unnamedFirst] = pure types ∧
        types.resolve "pair" = .ok (.record "pair") ∧
        types.record? "pair" = some Pair.unnamedLayout := by
  have hnames : Pair.unnamedFirst.definitionNames.Nodup := by decide
  have htags : Pair.unnamedFirst.recordTags.Nodup := by decide
  obtain ⟨types, htypes, hrecord⟩ :=
    record_of_unnamed_iff Pair.wellFormed_unnamedFirst hnames htags
  have htree : (Pair.unnamed 2, Pair.unnamedMembers 3) ∈ Pair.unnamedFirst.subtrees :=
    List.mem_of_getElem? (i := 2) rfl
  obtain ⟨layout, hlayout, -, hresolve, hiff⟩ := hrecord (Short.definition 6 "pair" 2) (by decide)
    (Pair.unnamed 2) (Pair.unnamedMembers 3) "pair" rfl rfl rfl htree (by decide) rfl
  cases hlayout.unique Pair.wellFormed_unnamedFirst (Pair.unnamed_layoutOf (by decide) (by decide))
  have hbase : ∀ base ∈ Pair.unnamedFirst.entries, base.tag = .baseType →
      base.declaredName? ≠ some "pair" := by
    decide
  have hpair : types.resolve "pair" = .ok (.record "pair") := hresolve.2 ⟨by decide,
    fun base hmem hkind hfirst ↦ hbase base hmem hkind hfirst.declaredName?_eq⟩
  refine ⟨Pair.wellFormed_unnamedFirst, hnames, htags, types, htypes, hpair, ?_⟩
  apply hiff.2
  intro other inner hother hlt hcomplete
  have hearlier : ∀ other ∈ Pair.unnamedFirst.entries, other.offset < 2 → ¬ other.IsComplete := by
    decide
  exact absurd hcomplete (hearlier other (Forest.mem_entries_of_mem_subtrees hother) hlt)

/-- The type definition stands for the record without a tag, but the registry has the layout of the
record with the tag under its name. -/
theorem record_of_unnamed_ne_pair :
    (Pair.unit Pair.taggedFirst).WellFormed Pair.taggedFirst ∧
      Pair.taggedFirst.definitionNames.Nodup ∧ Pair.taggedFirst.recordTags.Nodup ∧
      (Short.definition 9 "pair" 5).attribute? .type = some (.reference (Pair.unnamed 5).offset) ∧
      Pair.taggedFirst.LayoutOf 0 (Pair.unnamed 5) (Pair.unnamedMembers 6) Pair.unnamedLayout ∧
      ∃ types, registryOf [Pair.unit Pair.taggedFirst] = pure types ∧
        types.resolve "pair" = .ok (.record "pair") ∧
        types.record? "pair" = some Pair.taggedLayout := by
  obtain ⟨types, htypes, hrecord?, hdefinition⟩ := Pair.wellFormed_taggedFirst.exists_registry
  refine ⟨Pair.wellFormed_taggedFirst, by decide, by decide, rfl,
    Pair.unnamed_layoutOf (by decide) (by decide), types, htypes, ?_, ?_⟩
  · have hidentifier : TypeName.IsIdentifier "pair" := by decide +kernel
    have hmeans : Pair.taggedFirst.Means 0 (some (.reference (Short.definition 9 "pair" 5).offset))
        (.record "pair") := by
      have hunnamed : Pair.taggedFirst.Means 0 (some (.reference (Pair.unnamed 5).offset))
          (.record (Pair.taggedFirst.recordName 0 (Pair.unnamed 5))) := .record (by decide) rfl
      exact .synonym (by decide) rfl hunnamed
    have hdeclared : types.definition? "pair" = some (.record "pair") :=
      (hdefinition _ _).2 ⟨Short.definition 9 "pair" 5, by decide, ⟨rfl, by decide⟩, hmeans⟩
    rw [Registry.resolve_isIdentifier_iff hidentifier, Registry.baseType?_eq, hdeclared]
    rfl
  · have htree : (Pair.tagged 2, Pair.taggedMembers 3) ∈ Pair.taggedFirst.subtrees :=
      List.mem_of_getElem? (i := 2) rfl
    exact (hrecord? _ _).2 ⟨Pair.tagged 2, Pair.taggedMembers 3, htree,
      ⟨by decide, by decide, by decide⟩, Pair.tagged_layoutOf (by decide)⟩

end MemoryInspector.DebugInfo
