import Mathlib.Data.List.Induction
import MemoryInspector.Config
import MemoryInspector.Proofs.Registry

/-!
# Configurations pass by pass

A configuration is applied to a registry in three passes: its records are declared with their sizes
alone, its definitions are resolved one after another, and its records get their fields. The last
pass changes no size and no definition, so that each field has the type and the size that it would
have if it was the only one.
-/

namespace MemoryInspector.Config

variable {config : Config} {base types types' named : Registry} {records : List RecordEntry}
  {record : RecordEntry} {entries : List (String × String)} {name : String}

theorem typeRegistry_eq_ok_iff : config.typeRegistry base = .ok types ↔
    ∃ named, config.definitions.toList.foldlM applyDefinition (declareRecords config.records base) =
        .ok named ∧
      config.records.foldlM applyRecord named = .ok types :=
  Except.bind_eq_ok_iff

/-! ## Declared records -/

/-- Entries for the same record give it the same size. -/
def SizesAgree (records : List RecordEntry) : Prop :=
  ∀ first ∈ records, ∀ second ∈ records, first.name = second.name → first.size = second.size

theorem sizesAgree_of_nodup (h : (records.map (·.name)).Nodup) : SizesAgree records := by
  intro first hfirst second hsecond hname
  rw [List.inj_on_of_nodup_map h hfirst hsecond hname]

theorem declareRecords_concat (records : List RecordEntry) (record : RecordEntry)
    (types : Registry) : declareRecords (records ++ [record]) types =
      (declareRecords records types).addRecord ⟨record.name, record.size, []⟩ :=
  List.foldl_concat _ _ _ _

theorem definition?_declareRecords (records : List RecordEntry) (types : Registry) (name : String) :
    (declareRecords records types).definition? name = types.definition? name := by
  induction records using List.reverseRecOn with
  | nil => rfl
  | append_singleton records record ih =>
    rw [declareRecords_concat, Registry.definition?_addRecord, ih]

theorem record?_declareRecords_of_forall_ne (h : ∀ record ∈ records, record.name ≠ name) :
    (declareRecords records types).record? name = types.record? name := by
  induction records using List.reverseRecOn with
  | nil => rfl
  | append_singleton records record ih =>
    rw [List.forall_mem_append, List.forall_mem_singleton] at h
    rw [declareRecords_concat, Registry.record?_addRecord, if_neg h.2, ih h.1]

/-- The last entry for a record counts. -/
theorem record?_declareRecords_of_mem (types : Registry) (hrecord : record ∈ records) :
    ∃ source ∈ records, source.name = record.name ∧
      (declareRecords records types).record? record.name = some ⟨source.name, source.size, []⟩ := by
  induction records using List.reverseRecOn with
  | nil => cases hrecord
  | append_singleton records last ih =>
    rw [declareRecords_concat, Registry.record?_addRecord]
    by_cases hname : last.name = record.name
    · rw [if_pos hname]
      exact ⟨last, List.mem_append_right _ List.mem_cons_self, hname, rfl⟩
    · have hmem : record ∈ records := by
        rcases List.mem_append.1 hrecord with hmem | hlast
        · exact hmem
        · cases List.mem_singleton.1 hlast
          exact absurd rfl hname
      obtain ⟨source, hsource, hsourceName, hfound⟩ := ih hmem
      rw [if_neg hname]
      exact ⟨source, List.mem_append_left _ hsource, hsourceName, hfound⟩

/-! ## Definitions -/

theorem applyDefinition_eq_ok_iff {entry : String × String} :
    applyDefinition types entry = .ok types' ↔
      ∃ type, types.resolve entry.2 = .ok type ∧ types.define entry.1 type = types' := by
  unfold applyDefinition
  split
  · next type htype => simp [htype]
  · next e he => simp [he]

/-- The records are those of before. -/
theorem record?_of_applyDefinitions (h : entries.foldlM applyDefinition types = .ok named)
    (name : String) : named.record? name = types.record? name := by
  refine Except.foldlM_induction (fun state ↦ state.record? name = types.record? name) rfl ?_ h
  intro state entry state' _ hstate hstep
  obtain ⟨type, -, rfl⟩ := applyDefinition_eq_ok_iff.1 hstep
  exact hstate

theorem definition?_of_applyDefinitions (hname : ∀ entry ∈ entries, entry.1 ≠ name)
    (h : entries.foldlM applyDefinition types = .ok named) :
    named.definition? name = types.definition? name := by
  refine Except.foldlM_induction (fun state ↦ state.definition? name = types.definition? name)
    rfl ?_ h
  intro state entry state' hentry hstate hstep
  obtain ⟨type, -, rfl⟩ := applyDefinition_eq_ok_iff.1 hstep
  rw [Registry.definition?_define, if_neg (hname entry hentry), hstate]

/-- Definitions mean the same in registries with the same outline. -/
theorem exists_applyDefinitions (hsame : types.SameOutline types')
    (h : entries.foldlM applyDefinition types = .ok named) :
    ∃ named', entries.foldlM applyDefinition types' = .ok named' ∧ named.SameOutline named' := by
  induction entries generalizing types types' with
  | nil =>
    cases h
    exact ⟨types', rfl, hsame⟩
  | cons entry rest ih =>
    rw [List.foldlM_cons] at h ⊢
    obtain ⟨middle, hfirst, hrest⟩ := Except.bind_eq_ok_iff.1 h
    obtain ⟨type, htype, rfl⟩ := applyDefinition_eq_ok_iff.1 hfirst
    have hfirst' : applyDefinition types' entry = .ok (types'.define entry.1 type) :=
      applyDefinition_eq_ok_iff.2 ⟨type, hsame.resolve_eq entry.2 ▸ htype, rfl⟩
    rw [hfirst', Except.ok_bind]
    exact ih (hsame.define entry.1 type) hrest

/-! ## Layouts -/

/-- The layout that an entry gives to its record. -/
def layoutOf (types : Registry) (record : RecordEntry) : Except ConfigError RecordLayout :=
  (record.fields.mapM (fieldOf types record)).map fun fields ↦ ⟨record.name, record.size, fields⟩

theorem applyRecord_eq_ok_iff : applyRecord types record = .ok types' ↔
    ∃ layout, layoutOf types record = .ok layout ∧ types.addRecord layout = types' := by
  unfold applyRecord layoutOf
  rw [Except.bind_eq_ok_iff]
  simp only [Except.map_eq_ok_iff, Except.ok.injEq]
  constructor
  · rintro ⟨fields, hfields, rfl⟩
    exact ⟨_, ⟨fields, hfields, rfl⟩, rfl⟩
  · rintro ⟨layout, ⟨fields, hfields, rfl⟩, rfl⟩
    exact ⟨fields, hfields, rfl⟩

theorem fieldOf_eq_ok_iff {entry : FieldEntry} {field : Field} :
    fieldOf types record entry = .ok field ↔ ∃ type size, types.resolve entry.typeName = .ok type ∧
      types.byteSize type = .ok size ∧ entry.offset.toNat + size ≤ record.size.toNat ∧
      field = ⟨entry.name, entry.offset, type⟩ := by
  unfold fieldOf
  split
  · next e htype => simp [htype]
  · next type htype =>
    split
    · next e hsize => simp [htype, hsize]
    · next size hsize =>
      split
      · next hfits => simp [htype, hsize, hfits, eq_comm]
      · next hfits => simp [htype, hsize, hfits]

theorem layoutOf_eq_ok_iff {layout : RecordLayout} : layoutOf types record = .ok layout ↔
    layout.name = record.name ∧ layout.size = record.size ∧
      List.Forall₂ (fun entry field ↦ fieldOf types record entry = .ok field) record.fields
        layout.fields := by
  unfold layoutOf
  rw [Except.map_eq_ok_iff]
  simp only [Except.mapM_eq_ok_iff]
  constructor
  · rintro ⟨fields, hfields, rfl⟩
    exact ⟨rfl, rfl, hfields⟩
  · rintro ⟨hname, hsize, hfields⟩
    exact ⟨layout.fields, hfields, by rw [← hname, ← hsize]⟩

theorem layoutOf_congr (h : types.SameOutline types') : layoutOf types = layoutOf types' := by
  have hfield : fieldOf types = fieldOf types' := by
    funext record entry
    unfold fieldOf
    simp only [h.resolve_eq, h.byteSize_eq]
  funext record
  unfold layoutOf
  rw [hfield]

theorem definition?_of_applyRecords (h : records.foldlM applyRecord named = .ok types)
    (name : String) : types.definition? name = named.definition? name := by
  refine Except.foldlM_induction (fun state ↦ state.definition? name = named.definition? name)
    rfl ?_ h
  intro state record state' _ hstate hstep
  obtain ⟨layout, -, rfl⟩ := applyRecord_eq_ok_iff.1 hstep
  exact hstate

/-- No record is new in the last pass. -/
theorem isSome_record?_of_applyRecords
    (hdeclared : ∀ record ∈ records, (named.record? record.name).isSome)
    (h : records.foldlM applyRecord named = .ok types) (name : String) :
    (types.record? name).isSome = (named.record? name).isSome := by
  refine Except.foldlM_induction
    (fun state ↦ (state.record? name).isSome = (named.record? name).isSome) rfl ?_ h
  intro state record state' hrecord hstate hstep
  obtain ⟨layout, hlayout, rfl⟩ := applyRecord_eq_ok_iff.1 hstep
  rw [Registry.record?_addRecord, (layoutOf_eq_ok_iff.1 hlayout).1]
  split
  · next hname => rw [← hname, hdeclared record hrecord, Option.isSome_some]
  · exact hstate

/-- What the last pass makes of the registry in which the sizes and the definitions are known: each
configured record has a layout that is right by these. -/
structure Completed (named : Registry) (records : List RecordEntry) (types : Registry) : Prop where
  outline : types.SameOutline named
  accepted : ∀ record ∈ records, ∃ layout, layoutOf named record = .ok layout
  record?_of_mem : ∀ record ∈ records, ∃ source ∈ records, source.name = record.name ∧
    ∃ layout, layoutOf named source = .ok layout ∧ types.record? record.name = some layout
  record?_of_forall_ne : ∀ name, (∀ record ∈ records, record.name ≠ name) →
    types.record? name = named.record? name

namespace Completed

theorem nil (named : Registry) : Completed named [] named where
  outline := .refl named
  accepted := List.forall_mem_nil _
  record?_of_mem := List.forall_mem_nil _
  record?_of_forall_ne _ _ := rfl

/-- A further record of the known size gets its fields. -/
theorem addRecord {layout : RecordLayout} (h : Completed named records types)
    (hsize : (named.record? record.name).map (·.size) = some record.size)
    (hlayout : layoutOf named record = .ok layout) :
    Completed named (records ++ [record]) (types.addRecord layout) := by
  obtain ⟨hname, hlayoutSize, -⟩ := layoutOf_eq_ok_iff.1 hlayout
  have hmem : record ∈ records ++ [record] := List.mem_append_right _ List.mem_cons_self
  refine ⟨?_, ?_, ?_, ?_⟩
  · refine .trans (.addRecord ?_) h.outline
    rw [hname, hlayoutSize, h.outline.size_eq, hsize]
  · rw [List.forall_mem_append, List.forall_mem_singleton]
    exact ⟨h.accepted, layout, hlayout⟩
  · intro other hother
    rw [Registry.record?_addRecord]
    by_cases hsame : layout.name = other.name
    · rw [if_pos hsame]
      exact ⟨record, hmem, hname.symm.trans hsame, layout, hlayout, rfl⟩
    · have hbefore : other ∈ records := by
        rcases List.mem_append.1 hother with hbefore | hlast
        · exact hbefore
        · cases List.mem_singleton.1 hlast
          exact absurd hname hsame
      obtain ⟨source, hsource, hfound⟩ := h.record?_of_mem other hbefore
      rw [if_neg hsame]
      exact ⟨source, List.mem_append_left _ hsource, hfound⟩
  · intro name hne
    rw [List.forall_mem_append, List.forall_mem_singleton, ← hname] at hne
    rw [Registry.record?_addRecord, if_neg hne.2, h.record?_of_forall_ne name hne.1]

end Completed

section Sizes

variable (hsizes : ∀ record ∈ records,
  (named.record? record.name).map (·.size) = some record.size)
include hsizes

theorem completed_of_applyRecords (h : records.foldlM applyRecord named = .ok types) :
    Completed named records types := by
  induction records using List.reverseRecOn generalizing types with
  | nil =>
    cases h
    exact .nil named
  | append_singleton records record ih =>
    rw [List.forall_mem_append, List.forall_mem_singleton] at hsizes
    obtain ⟨middle, hmiddle, hlast⟩ := Except.foldlM_concat_eq_ok_iff.1 h
    obtain ⟨layout, hlayout, rfl⟩ := applyRecord_eq_ok_iff.1 hlast
    have hcompleted := ih hsizes.1 hmiddle
    rw [layoutOf_congr hcompleted.outline] at hlayout
    exact hcompleted.addRecord hsizes.2 hlayout

/-- All records get their fields if each entry gives a layout by itself. -/
theorem exists_applyRecords (h : ∀ record ∈ records, ∃ layout, layoutOf named record = .ok layout) :
    ∃ types, records.foldlM applyRecord named = .ok types := by
  induction records using List.reverseRecOn with
  | nil => exact ⟨named, rfl⟩
  | append_singleton records record ih =>
    rw [List.forall_mem_append, List.forall_mem_singleton] at hsizes h
    obtain ⟨middle, hmiddle⟩ := ih hsizes.1 h.1
    obtain ⟨layout, hlayout⟩ := h.2
    rw [← layoutOf_congr (completed_of_applyRecords hsizes.1 hmiddle).outline] at hlayout
    exact ⟨_, Except.foldlM_concat_eq_ok_iff.2
      ⟨middle, hmiddle, applyRecord_eq_ok_iff.2 ⟨layout, hlayout, rfl⟩⟩⟩

end Sizes

/-! ## All passes -/

/-- The records in the end are those of the base registry and the configured ones. -/
theorem isSome_record?_of_typeRegistry (h : config.typeRegistry base = .ok types) (name : String) :
    (types.record? name).isSome = ((declareRecords config.records base).record? name).isSome := by
  obtain ⟨named, hnamed, htypes⟩ := typeRegistry_eq_ok_iff.1 h
  rw [isSome_record?_of_applyRecords _ htypes, record?_of_applyDefinitions hnamed]
  intro record hrecord
  obtain ⟨source, -, -, hfound⟩ := record?_declareRecords_of_mem base hrecord
  rw [record?_of_applyDefinitions hnamed, hfound, Option.isSome_some]

/-- Before the last pass each record has the size that its entries agree on. -/
theorem size_eq_of_applyDefinitions (hsizes : SizesAgree records)
    (h : entries.foldlM applyDefinition (declareRecords records base) = .ok named)
    (hrecord : record ∈ records) :
    (named.record? record.name).map (·.size) = some record.size := by
  obtain ⟨source, hsource, hname, hfound⟩ := record?_declareRecords_of_mem base hrecord
  rw [record?_of_applyDefinitions h, hfound, Option.map_some,
    hsizes source hsource record hrecord hname]

theorem completed_of_typeRegistry (hsizes : SizesAgree config.records)
    (h : config.typeRegistry base = .ok types) :
    ∃ named, config.definitions.toList.foldlM applyDefinition (declareRecords config.records base) =
        .ok named ∧
      Completed named config.records types := by
  obtain ⟨named, hnamed, htypes⟩ := typeRegistry_eq_ok_iff.1 h
  exact ⟨named, hnamed,
    completed_of_applyRecords (fun _ ↦ size_eq_of_applyDefinitions hsizes hnamed) htypes⟩

end MemoryInspector.Config
