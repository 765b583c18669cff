import MemoryInspector.Hierarchy.Layouts
import MemoryInspector.Proofs.Config.Application

/-!
# The order of configured records

Where each record is configured once, the order of the entries has no influence on whether the
configuration is accepted, nor on the registry. A type may name any other configured record,
because all sizes are known before the first field is looked at.
-/

namespace MemoryInspector.Config

variable {config : Config} {base types types' named named' : Registry}
  {records reordered : List RecordEntry} {record : RecordEntry} {name : String}

/-! ## Records with distinct names -/

section Names

variable (hnames : (records.map (·.name)).Nodup)
include hnames

theorem record?_declareRecords (hrecord : record ∈ records) :
    (declareRecords records base).record? record.name = some ⟨record.name, record.size, []⟩ := by
  obtain ⟨source, hsource, hname, hfound⟩ := record?_declareRecords_of_mem base hrecord
  rwa [List.inj_on_of_nodup_map hnames hsource hrecord hname] at hfound

/-- The layout of a configured record is that of its one entry. -/
theorem Completed.record?_eq (h : Completed named records types) (hrecord : record ∈ records) :
    ∃ layout, layoutOf named record = .ok layout ∧ types.record? record.name = some layout := by
  obtain ⟨source, hsource, hname, hfound⟩ := h.record?_of_mem record hrecord
  rwa [List.inj_on_of_nodup_map hnames hsource hrecord hname] at hfound

theorem sameOutline_declareRecords (hperm : reordered.Perm records) :
    (declareRecords records base).SameOutline (declareRecords reordered base) where
  size_eq name := by
    have hreordered : (reordered.map (·.name)).Nodup := (hperm.map _).nodup_iff.2 hnames
    by_cases hname : ∃ record ∈ records, record.name = name
    · obtain ⟨record, hrecord, rfl⟩ := hname
      rw [record?_declareRecords hnames hrecord,
        record?_declareRecords hreordered (hperm.mem_iff.2 hrecord)]
    · simp only [not_exists, not_and] at hname
      rw [record?_declareRecords_of_forall_ne hname, record?_declareRecords_of_forall_ne]
      exact fun record hrecord ↦ hname record (hperm.mem_iff.1 hrecord)
  definition_eq name := by rw [definition?_declareRecords, definition?_declareRecords]

/-- The fields of reordered records come out the same, if the registries before them differ in no
size, no definition and no record that is not configured. -/
theorem Completed.sameEntries_of_perm (h : Completed named records types)
    (h' : Completed named' reordered types') (hperm : reordered.Perm records)
    (hsame : named.SameOutline named')
    (hothers : ∀ name, (∀ record ∈ records, record.name ≠ name) →
      named'.record? name = named.record? name) : types'.SameEntries types := by
  have hreordered : (reordered.map (·.name)).Nodup := (hperm.map _).nodup_iff.2 hnames
  apply Registry.SameEntries.of_lookups
  · intro name
    by_cases hname : ∃ record ∈ records, record.name = name
    · obtain ⟨record, hrecord, rfl⟩ := hname
      obtain ⟨layout, hlayout, hfound⟩ := h.record?_eq hnames hrecord
      obtain ⟨layout', hlayout', hfound'⟩ := h'.record?_eq hreordered (hperm.mem_iff.2 hrecord)
      rw [← layoutOf_congr hsame, hlayout] at hlayout'
      rw [hfound, hfound', Except.ok.inj hlayout']
    · simp only [not_exists, not_and] at hname
      have hname' : ∀ record ∈ reordered, record.name ≠ name :=
        fun record hrecord ↦ hname record (hperm.mem_iff.1 hrecord)
      calc
        types'.record? name = named'.record? name := h'.record?_of_forall_ne name hname'
        _ = named.record? name := hothers name hname
        _ = types.record? name := (h.record?_of_forall_ne name hname).symm
  · intro name
    calc
      types'.definition? name = named'.definition? name := h'.outline.definition_eq name
      _ = named.definition? name := (hsame.definition_eq name).symm
      _ = types.definition? name := (h.outline.definition_eq name).symm

end Names

/-! ## Accepted configurations -/

/-- The registry has the configured field, of the type that the registry itself gives to the
configured name of the type. -/
structure HasField (types : Registry) (entry : FieldEntry) (field : Field) : Prop where
  name_eq : field.name = entry.name
  offset_eq : field.offset = entry.offset
  resolve_eq : types.resolve entry.typeName = .ok field.type

/-- The registry has the configured records, and is like the base one elsewhere. -/
structure OnTopOf (config : Config) (base types : Registry) : Prop where
  record?_of_forall_ne : ∀ name, (∀ record ∈ config.records, record.name ≠ name) →
    types.record? name = base.record? name
  definition?_of_not_mem : ∀ name, name ∉ config.definitions →
    types.definition? name = base.definition? name
  record?_of_mem : ∀ record ∈ config.records, ∃ fields,
    types.record? record.name = some ⟨record.name, record.size, fields⟩ ∧
      List.Forall₂ (HasField types) record.fields fields

theorem hasField_of_fieldOf {entry : FieldEntry} {field : Field} (hsame : types.SameOutline named)
    (h : fieldOf named record entry = .ok field) : HasField types entry field := by
  obtain ⟨type, size, htype, -, -, rfl⟩ := fieldOf_eq_ok_iff.1 h
  exact ⟨rfl, rfl, (hsame.resolve_eq entry.typeName).trans htype⟩

theorem onTopOf_of_typeRegistry (hnames : (config.records.map (·.name)).Nodup)
    (h : config.typeRegistry base = .ok types) : config.OnTopOf base types := by
  obtain ⟨named, hnamed, hcompleted⟩ := completed_of_typeRegistry (sizesAgree_of_nodup hnames) h
  refine ⟨?_, ?_, ?_⟩
  · intro name hname
    calc
      types.record? name = named.record? name := hcompleted.record?_of_forall_ne name hname
      _ = (declareRecords config.records base).record? name := record?_of_applyDefinitions hnamed name
      _ = base.record? name := record?_declareRecords_of_forall_ne hname
  · intro name hname
    have hentries : ∀ entry ∈ config.definitions.toList, entry.1 ≠ name := by
      rintro ⟨key, text⟩ hentry rfl
      rw [Std.TreeMap.mem_toList_iff_getElem?_eq_some] at hentry
      rw [Std.TreeMap.mem_iff_isSome_getElem?, hentry] at hname
      exact hname rfl
    calc
      types.definition? name = named.definition? name := hcompleted.outline.definition_eq name
      _ = (declareRecords config.records base).definition? name :=
        definition?_of_applyDefinitions hentries hnamed
      _ = base.definition? name := definition?_declareRecords _ _ _
  · intro record hrecord
    obtain ⟨layout, hlayout, hfound⟩ := hcompleted.record?_eq hnames hrecord
    obtain ⟨hname, hsize, hfields⟩ := layoutOf_eq_ok_iff.1 hlayout
    refine ⟨layout.fields, ?_, ?_⟩
    · rw [hfound, ← hname, ← hsize]
    · exact hfields.imp fun _ _ ↦ hasField_of_fieldOf hcompleted.outline

/-- The same records in another order are accepted as well, and give the same registry. -/
theorem exists_typeRegistry_of_perm (hnames : (config.records.map (·.name)).Nodup)
    (hperm : records.Perm config.records) (h : config.typeRegistry base = .ok types) :
    ∃ types', { config with records := records }.typeRegistry base = .ok types' ∧
      types'.SameEntries types := by
  have hnames' : (records.map (·.name)).Nodup := (hperm.map _).nodup_iff.2 hnames
  obtain ⟨named, hnamed, hcompleted⟩ := completed_of_typeRegistry (sizesAgree_of_nodup hnames) h
  obtain ⟨named', hnamed', hsame⟩ :=
    exists_applyDefinitions (sameOutline_declareRecords hnames hperm) hnamed
  have hsizes' : ∀ record ∈ records,
      (named'.record? record.name).map (·.size) = some record.size :=
    fun _ ↦ size_eq_of_applyDefinitions (sizesAgree_of_nodup hnames') hnamed'
  obtain ⟨types', htypes'⟩ := exists_applyRecords hsizes' (by
    intro record hrecord
    rw [← layoutOf_congr hsame]
    exact hcompleted.accepted record (hperm.mem_iff.1 hrecord))
  refine ⟨types', typeRegistry_eq_ok_iff.2 ⟨named', hnamed', htypes'⟩, ?_⟩
  apply hcompleted.sameEntries_of_perm hnames (completed_of_applyRecords hsizes' htypes') hperm hsame
  intro name hname
  have hname' : ∀ record ∈ records, record.name ≠ name :=
    fun record hrecord ↦ hname record (hperm.mem_iff.1 hrecord)
  calc
    named'.record? name = (declareRecords records base).record? name :=
      record?_of_applyDefinitions hnamed' name
    _ = base.record? name := record?_declareRecords_of_forall_ne hname'
    _ = (declareRecords config.records base).record? name :=
      (record?_declareRecords_of_forall_ne hname).symm
    _ = named.record? name := (record?_of_applyDefinitions hnamed name).symm

/-- Both configurations are rejected, or both are accepted with the same registry. -/
inductive SameOutcome : (first second : Except ConfigError Registry) → Prop
  | accepted {types types' : Registry} (h : types.SameEntries types') : SameOutcome (.ok types) (.ok types')
  | rejected (e e' : ConfigError) : SameOutcome (.error e) (.error e')

/-- If no two entries are for the same record, their order does not matter. An accepted
configuration gives each configured record its size and its fields, with the types that their names
have in the registry which comes of it, and leaves all other entries of the base registry as they
are. -/
theorem typeRegistry_perm_and_onTopOf (config : Config) (base : Registry)
    (hnames : (config.records.map (·.name)).Nodup) :
    (∀ records : List RecordEntry, records.Perm config.records →
      SameOutcome ({ config with records := records }.typeRegistry base) (config.typeRegistry base)) ∧
    ∀ types, config.typeRegistry base = .ok types → config.OnTopOf base types := by
  refine ⟨?_, fun types ↦ onTopOf_of_typeRegistry hnames⟩
  intro records hperm
  cases hfirst : config.typeRegistry base with
  | ok types =>
    obtain ⟨types', hsecond, hsame⟩ := exists_typeRegistry_of_perm hnames hperm hfirst
    rw [hsecond]
    exact .accepted hsame
  | error e =>
    cases hsecond : { config with records := records }.typeRegistry base with
    | error e' => exact .rejected e' e
    | ok types =>
      have hnames' : (records.map (·.name)).Nodup := (hperm.map _).nodup_iff.2 hnames
      obtain ⟨types', hsame, -⟩ := @exists_typeRegistry_of_perm { config with records := records }
        base types config.records hnames' hperm.symm hsecond
      cases hfirst.symm.trans hsame

/-- Nodes of another layout than the built-in one, and a record that mentions them before they are
configured, and itself. -/
def edgeConfig : Config where
  records := [
    ⟨"edge", 152, [⟨"from", 0, "SelvaHierarchyNode"⟩, ⟨"stamp", 128, "struct trx"⟩,
      ⟨"next", 144, "edge *"⟩]⟩,
    ⟨"SelvaHierarchyNode", 128, [⟨"id", 0, "node_id_t"⟩, ⟨"visit_stamp", 8, "struct trx"⟩,
      ⟨"parents", 24, "SVector"⟩, ⟨"children", 72, "SVector"⟩, ⟨"first", 120, "struct edge *"⟩]⟩]
  definitions := (∅ : Std.TreeMap String String).insert "node_id_t" "long"

def edgeLayout : RecordLayout where
  name := "edge"
  size := 152
  fields := [⟨"from", 0, .record Hierarchy.nodeType⟩, ⟨"stamp", 128, .record "trx"⟩,
    ⟨"next", 144, .pointer (.record "edge")⟩]

theorem typeRegistry_perm_and_onTopOf_edge :
    (edgeConfig.records.map (·.name)).Nodup ∧
    SameOutcome
      ({ edgeConfig with records := edgeConfig.records.reverse }.typeRegistry Hierarchy.types)
      (edgeConfig.typeRegistry Hierarchy.types) ∧
    ∃ types, edgeConfig.typeRegistry Hierarchy.types = .ok types ∧
      edgeConfig.OnTopOf Hierarchy.types types ∧ types.record? "edge" = some edgeLayout := by
  have hnames : (edgeConfig.records.map (·.name)).Nodup := by decide
  have hedge : (edgeConfig.typeRegistry Hierarchy.types).map (·.record? "edge") =
      .ok (some edgeLayout) := by
    decide +kernel
  obtain ⟨types, htypes, hfound⟩ := Except.map_eq_ok_iff.1 hedge
  obtain ⟨horder, hontop⟩ := typeRegistry_perm_and_onTopOf edgeConfig Hierarchy.types hnames
  exact ⟨hnames, horder _ (List.reverse_perm _), types, htypes, hontop types htypes, hfound⟩

end MemoryInspector.Config
