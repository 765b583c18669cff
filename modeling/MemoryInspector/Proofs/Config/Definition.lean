import MemoryInspector.Hierarchy.Layouts
import MemoryInspector.Proofs.Config.Application
import MemoryInspector.Proofs.TypeName

/-!
# Configured definitions

The texts of definitions are resolved in the order of the defined names. A definition therefore
sees the configured meaning of the names before its own, and the old meaning of the others, which is
the one of the base registry. It agrees with its text in the registry that comes of the configuration
unless it mentions a name that gets another meaning later.
-/

namespace MemoryInspector

open Expression

namespace Config

variable {config : Config} {base types start middle : Registry} {name text key : String}
  {type : CType} {tagged : Bool} {written : TypeName}

/-! ## The moment of a definition -/

/-- In the registry in the middle the text means the type that the name is defined as. Names before
it have their meaning in the end there already, names from it on that at the start still. -/
structure DefinedAt (config : Config) (start middle types : Registry) (name text : String)
    (type : CType) : Prop where
  resolve_eq : middle.resolve text = .ok type
  definition?_eq : types.definition? name = some type
  isSome_start : ∀ key, (middle.record? key).isSome = (start.record? key).isSome
  isSome_end : ∀ key, (middle.record? key).isSome = (types.record? key).isSome
  definition?_start : ∀ key, (key ∈ config.definitions → name ≤ key) →
    middle.definition? key = start.definition? key
  definition?_end : ∀ key, (key ∈ config.definitions → key < name) →
    middle.definition? key = types.definition? key

theorem mem_definitions_of_mem_toList {entry : String × String}
    (h : entry ∈ config.definitions.toList) : entry.1 ∈ config.definitions := by
  rw [← Std.TreeMap.mem_keys, ← Std.TreeMap.map_fst_toList_eq_keys]
  exact List.mem_map_of_mem h

theorem pairwise_definitions (config : Config) :
    config.definitions.toList.Pairwise fun first second ↦ first.1 < second.1 := by
  apply Std.TreeMap.ordered_keys_toList.imp
  intro first second
  exact compareOfLessAndEq_eq_lt.1

theorem exists_definedAt (h : config.typeRegistry base = .ok types)
    (hname : config.definitions[name]? = some text) :
    ∃ middle type,
      DefinedAt config (declareRecords config.records base) middle types name text type := by
  obtain ⟨named, hnamed, htypes⟩ := typeRegistry_eq_ok_iff.1 h
  have hdefinition := definition?_of_applyRecords htypes
  have hmem : (name, text) ∈ config.definitions.toList :=
    Std.TreeMap.mem_toList_iff_getElem?_eq_some.2 hname
  -- The definitions before the name are below it, and those behind it above it.
  obtain ⟨before, after, hlist⟩ := List.append_of_mem hmem
  have hsorted := pairwise_definitions config
  rw [hlist, List.pairwise_append, List.pairwise_cons] at hsorted
  obtain ⟨-, ⟨hafter, -⟩, hbefore⟩ := hsorted
  have hkeys : ∀ entry ∈ before ++ (name, text) :: after, entry.1 ∈ config.definitions :=
    fun entry hentry ↦ mem_definitions_of_mem_toList (hlist ▸ hentry)
  rw [hlist, List.foldlM_append] at hnamed
  obtain ⟨middle, hmiddle, htail⟩ := Except.bind_eq_ok_iff.1 hnamed
  have hsteps := htail
  rw [List.foldlM_cons] at hsteps
  obtain ⟨defined, hdefined, hrest⟩ := Except.bind_eq_ok_iff.1 hsteps
  obtain ⟨type, htype, rfl⟩ := applyDefinition_eq_ok_iff.1 hdefined
  have hrecord := record?_of_applyDefinitions hmiddle
  refine ⟨middle, type, htype, ?_, ?_, ?_, ?_, ?_⟩
  · have hne : ∀ entry ∈ after, entry.1 ≠ name := by
      rintro entry hentry rfl
      exact String.lt_irrefl _ (hafter entry hentry)
    rw [hdefinition, definition?_of_applyDefinitions hne hrest, Registry.definition?_define, if_pos rfl]
  · exact fun key ↦ congrArg Option.isSome (hrecord key)
  · intro key
    rw [isSome_record?_of_typeRegistry h, hrecord]
  · intro key hle
    apply definition?_of_applyDefinitions _ hmiddle
    rintro entry hentry rfl
    exact String.not_lt.2 (hle (hkeys entry (List.mem_append_left _ hentry)))
      (hbefore entry hentry _ List.mem_cons_self)
  · intro key hlt
    have hne : ∀ entry ∈ (name, text) :: after, entry.1 ≠ key := by
      rintro entry hentry rfl
      have hbelow := hlt (hkeys entry (List.mem_append_right _ hentry))
      rcases List.mem_cons.1 hentry with rfl | hbehind
      · exact String.lt_irrefl _ hbelow
      · exact String.lt_asymm (hafter entry hbehind) hbelow
    rw [hdefinition, definition?_of_applyDefinitions hne htail]

namespace DefinedAt

variable (h : DefinedAt config start middle types name text type)
include h

theorem baseType?_start (hle : key ∈ config.definitions → name ≤ key) :
    middle.baseType? tagged key = start.baseType? tagged key :=
  Registry.baseType?_congr (h.isSome_start key) fun _ ↦ h.definition?_start key hle

/-- What follows a tag is a record, which no definition changes. -/
theorem baseType?_end (hlt : tagged = false → key ∈ config.definitions → key < name) :
    middle.baseType? tagged key = types.baseType? tagged key :=
  Registry.baseType?_congr (h.isSome_end key) fun htagged ↦ h.definition?_end key (hlt htagged)

/-- The text keeps its meaning until the end if its base does. -/
theorem resolve_eq_ok_iff (hwritten : TypeName.read? text.toList = some written) :
    types.resolve text = .ok type ↔
      middle.baseType? written.tagged written.base = types.baseType? written.tagged written.base := by
  have hmiddle : middle.typeNamed? written = some type := by
    obtain ⟨other, hother, htype⟩ := Registry.resolve_eq_ok_iff.1 h.resolve_eq
    cases hwritten.symm.trans hother
    exact htype
  rw [← Registry.typeNamed?_eq_iff, hmiddle, Registry.resolve_eq_ok_iff, eq_comm]
  constructor
  · rintro ⟨other, hother, htype⟩
    cases hwritten.symm.trans hother
    exact htype
  · exact fun htype ↦ ⟨written, hwritten, htype⟩

end DefinedAt

/-! ## Definitions in the end -/

/-- The text mentions a configured name that is not before the defined one, and that means something
else in the end than it did before the definitions. -/
def UsesOldMeaning (config : Config) (base types : Registry) (name text : String) : Prop :=
  ∃ written, TypeName.read? text.toList = some written ∧ written.tagged = false ∧
    written.base ∈ config.definitions ∧ name ≤ written.base ∧
    (declareRecords config.records base).baseType? false written.base ≠
      types.baseType? false written.base

/-- For the base of the text, old and last meaning come apart only if the text uses the old one. -/
theorem DefinedAt.baseType?_eq_iff
    (h : DefinedAt config (declareRecords config.records base) middle types name text type)
    (hwritten : TypeName.read? text.toList = some written) :
    middle.baseType? written.tagged written.base = types.baseType? written.tagged written.base ↔
      ¬ config.UsesOldMeaning base types name text := by
  by_cases hlate : written.tagged = false ∧ written.base ∈ config.definitions ∧ name ≤ written.base
  · obtain ⟨htagged, hmem, hle⟩ := hlate
    rw [h.baseType?_start fun _ ↦ hle, htagged, ← not_iff_not, not_not]
    constructor
    · exact fun hne ↦ ⟨written, hwritten, htagged, hmem, hle, hne⟩
    · rintro ⟨other, hother, -, -, -, hne⟩
      cases hwritten.symm.trans hother
      exact hne
  · have hkept : middle.baseType? written.tagged written.base =
        types.baseType? written.tagged written.base := by
      apply h.baseType?_end
      intro htagged hmem
      apply String.not_le.1
      exact fun hle ↦ hlate ⟨htagged, hmem, hle⟩
    refine iff_of_true hkept ?_
    rintro ⟨other, hother, htagged, hmem, hle, -⟩
    cases hwritten.symm.trans hother
    exact hlate ⟨htagged, hmem, hle⟩

/-- In an accepted configuration, a defined name means the same as its text, unless the text uses the
old meaning of a name. -/
theorem resolve_definition_eq_iff (h : config.typeRegistry base = .ok types)
    (hname : config.definitions[name]? = some text) (hidentifier : TypeName.IsIdentifier name)
    (hvoid : name ≠ "void") (hscalar : Scalar.ofCName? name = none) :
    types.resolve name = types.resolve text ↔ ¬ config.UsesOldMeaning base types name text := by
  obtain ⟨middle, type, hdefined⟩ := exists_definedAt h hname
  obtain ⟨written, hwritten, -⟩ := Registry.resolve_eq_ok_iff.1 hdefined.resolve_eq
  have hself : types.resolve name = .ok type :=
    Registry.resolve_of_isIdentifier hidentifier hvoid hscalar hdefined.definition?_eq
  rw [hself, eq_comm, hdefined.resolve_eq_ok_iff hwritten, hdefined.baseType?_eq_iff hwritten]

/-- Two definitions, of which the later one mentions the other, which is no longer the built-in one. -/
def pairConfig : Config where
  definitions := (∅ : Std.TreeMap String String).insert "node_pair_t" "Selva_NodeId [2]"
    |>.insert "Selva_NodeId" "long"

theorem resolve_definition_eq_iff_pair :
    pairConfig.definitions["node_pair_t"]? = some "Selva_NodeId [2]" ∧
    TypeName.IsIdentifier "node_pair_t" ∧ "node_pair_t" ≠ "void" ∧
    Scalar.ofCName? "node_pair_t" = none ∧
    ∃ types, pairConfig.typeRegistry Hierarchy.types = .ok types ∧
      (types.resolve "node_pair_t" = types.resolve "Selva_NodeId [2]" ↔
        ¬ pairConfig.UsesOldMeaning Hierarchy.types types "node_pair_t" "Selva_NodeId [2]") ∧
      types.resolve "node_pair_t" = .ok (.array (.scalar .int64) 2) ∧
      types.resolve "Selva_NodeId [2]" = .ok (.array (.scalar .int64) 2) := by
  have hname : pairConfig.definitions["node_pair_t"]? = some "Selva_NodeId [2]" := by
    decide +kernel
  have hidentifier : TypeName.IsIdentifier "node_pair_t" := ⟨by decide +kernel, by decide⟩
  have hvoid : "node_pair_t" ≠ "void" := by decide
  have hscalar : Scalar.ofCName? "node_pair_t" = none := by decide
  have hresolve : (pairConfig.typeRegistry Hierarchy.types).map (fun types ↦
      (types.resolve "node_pair_t", types.resolve "Selva_NodeId [2]")) =
      .ok (.ok (.array (.scalar .int64) 2), .ok (.array (.scalar .int64) 2)) := by
    decide +kernel
  obtain ⟨types, htypes, hresolved⟩ := Except.map_eq_ok_iff.1 hresolve
  obtain ⟨hself, htext⟩ := Prod.mk.inj hresolved
  exact ⟨hname, hidentifier, hvoid, hscalar, types, htypes,
    resolve_definition_eq_iff htypes hname hidentifier hvoid hscalar, hself, htext⟩

/-- A definition before the one that it mentions, which replaces a built-in one. -/
def lateConfig : Config where
  definitions := (∅ : Std.TreeMap String String).insert "Id" "Selva_NodeId"
    |>.insert "Selva_NodeId" "long"

theorem resolve_definition_ne_late :
    lateConfig.definitions["Id"]? = some "Selva_NodeId" ∧ TypeName.IsIdentifier "Id" ∧
    ∃ types, lateConfig.typeRegistry Hierarchy.types = .ok types ∧
      types.resolve "Id" = .ok Hierarchy.idType ∧
      types.resolve "Selva_NodeId" = .ok (.scalar .int64) ∧
      types.resolve "Id" ≠ types.resolve "Selva_NodeId" := by
  have hresolve : (lateConfig.typeRegistry Hierarchy.types).map (fun types ↦
      (types.resolve "Id", types.resolve "Selva_NodeId")) =
      .ok (.ok Hierarchy.idType, .ok (.scalar .int64)) := by
    decide +kernel
  obtain ⟨types, htypes, hresolved⟩ := Except.map_eq_ok_iff.1 hresolve
  obtain ⟨hself, htext⟩ := Prod.mk.inj hresolved
  refine ⟨by decide +kernel, ⟨by decide +kernel, by decide⟩, types, htypes, hself, htext, ?_⟩
  rw [hself, htext]
  decide

end Config

end MemoryInspector
