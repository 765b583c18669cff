import Mathlib.Data.List.Pairwise
import MemoryInspector.Proofs.DebugInfo.Declaration
import MemoryInspector.Proofs.DebugInfo.Short

/-!
# Type definitions of well-formed units

A type definition is resolved to the type that its entry stands for, unless its name means something
else already. There are two ways for that: the name is one of those that mean the same in every
registry, which go before definitions, or a base type before the definition has it.
-/

namespace MemoryInspector.DebugInfo

section Names

variable {unit : CompilationUnit} {forest : Forest} {entry : Entry} {name : String}

/-! ## Distinct names -/

/-- If no result comes twice, there is one element for each of them. -/
theorem eq_of_nodup_filterMap {α β : Type} {f : α → Option β} {elements : List α} {a a' : α} {b : β}
    (h : (elements.filterMap f).Nodup) (ha : a ∈ elements) (ha' : a' ∈ elements)
    (hresult : f a = some b) (hresult' : f a' = some b) : a = a' := by
  let Differ (a a' : α) : Prop := ∀ b ∈ f a, ∀ b' ∈ f a', b ≠ b'
  have hdiffer : elements.Pairwise Differ := List.pairwise_filterMap.1 h
  have hsymm : Std.Symm Differ := ⟨fun _ _ h b hb b' hb' ↦ (h b' hb' b hb).symm⟩
  by_contra hne
  exact hdiffer.forall ha ha' hne b hresult b hresult' rfl

/-- The name of a type definition. -/
def Entry.definitionName? (entry : Entry) : Option String :=
  if entry.tag = .typeDefinition then entry.title? else none

def Forest.definitionNames (forest : Forest) : List String :=
  forest.entries.filterMap (·.definitionName?)

theorem Entry.declaredName?_of_typeDefinition (htag : entry.tag = .typeDefinition)
    (hname : entry.title? = some name) : entry.declaredName? = some name := by
  unfold declaredName?
  rw [htag]
  exact hname

/-- Besides a type definition with a name of its own, only base types declare the name. -/
theorem Forest.eq_or_baseType_of_declaredName? (hnames : forest.definitionNames.Nodup)
    (hentry : entry ∈ forest.entries) (htag : entry.tag = .typeDefinition)
    (hname : entry.title? = some name) {other : Entry} (hother : other ∈ forest.entries)
    (hdeclared : other.declaredName? = some name) : other = entry ∨ other.tag = .baseType := by
  unfold Entry.declaredName? at hdeclared
  split at hdeclared
  · next hkind =>
    exact .inl (eq_of_nodup_filterMap hnames hother hentry ((if_pos hkind).trans hdeclared)
      ((if_pos htag).trans hname))
  · next hkind => exact .inr hkind
  · cases hdeclared

/-- What is stored under the name of a type definition is what it means, or what a base type means that
declares the name first. -/
theorem CompilationUnit.WellFormed.definition?_eq_some_iff (h : unit.WellFormed forest)
    (hnames : forest.definitionNames.Nodup) {types : Registry}
    (hdefinition : ∀ name type, types.definition? name = some type ↔ ∃ entry ∈ forest.entries,
      forest.FirstName name entry ∧ forest.Means 0 (some (.reference entry.offset)) type)
    (hentry : entry ∈ forest.entries) (htag : entry.tag = .typeDefinition)
    (hname : entry.title? = some name) {type : CType}
    (htype : forest.Means 0 (entry.attribute? .type) type) :
    types.definition? name = some type ↔ ∀ base ∈ forest.entries, base.tag = .baseType →
      forest.FirstName name base → forest.Means 0 (some (.reference base.offset)) type := by
  have hsynonym : forest.Means 0 (some (.reference entry.offset)) type :=
    .synonym hentry (by rw [htag]; rfl) htype
  rw [hdefinition]
  constructor
  · rintro ⟨first, hmem, hfirst, hmeans⟩ base hbase - hfirstBase
    cases hfirst.eq_of_firstName h hfirstBase hmem hbase
    exact hmeans
  · intro hbases
    obtain ⟨first, hmem, hfirst⟩ :=
      Forest.exists_firstName hentry (Entry.declaredName?_of_typeDefinition htag hname)
    refine ⟨first, hmem, hfirst, ?_⟩
    rcases Forest.eq_or_baseType_of_declaredName? hnames hentry htag hname hmem
      hfirst.declaredName?_eq with rfl | hkind
    · exact hsynonym
    · exact hbases first hmem hkind hfirst

/-! ## Resolution -/

/-- The name of a type definition is resolved to what its type attribute means, except exactly if it
means something else in every registry, or else is declared first by a base type that is something
else. -/
theorem resolve_typeDefinition_iff (h : unit.WellFormed forest)
    (hnames : forest.definitionNames.Nodup) :
    ∃ types, registryOf [unit] = pure types ∧ ∀ entry ∈ forest.entries,
      entry.tag = .typeDefinition → ∀ name, entry.title? = some name →
        ∃ type, forest.Means 0 (entry.attribute? .type) type ∧
          (types.resolve name = .ok type ↔
            (∀ known, Registry.builtIn? name = some known → known = type) ∧
            (Registry.builtIn? name = none → ∀ base ∈ forest.entries, base.tag = .baseType →
              forest.FirstName name base → forest.Means 0 (some (.reference base.offset)) type)) := by
  obtain ⟨types, htypes, -, hdefinition⟩ := h.exists_registry
  refine ⟨types, htypes, ?_⟩
  intro entry hentry htag name hname
  obtain ⟨type, htype⟩ := h.exists_means 0 hentry
  refine ⟨type, htype, ?_⟩
  rw [Registry.resolve_isIdentifier_iff (h.definition_name entry hentry htag name hname),
    Registry.baseType?_eq, ← h.definition?_eq_some_iff hnames hdefinition hentry htag hname htype]
  obtain ⟨stored, hstored⟩ := h.exists_definition? hdefinition hentry
    (Entry.declaredName?_of_typeDefinition htag hname)
  cases Registry.builtIn? name with
  | none => simp [hstored]
  | some known => simp

end Names

namespace Definitions

/-! ## Definitions with names of all kinds -/

def constant : Entry := Short.entry 2 .constType false [(.type, .reference 1)]

def array : Entry := Short.entry 5 .arrayType true [(.type, .reference 4)]

def dimensions : Forest :=
  .cons (Short.entry 6 .subrangeType false [(.count, .number 2)]) .nil <|
    .cons (Short.entry 7 .subrangeType false [(.upperBound, .number 2)]) .nil .nil

def tops : Forest :=
  .cons (Short.base 1 "long unsigned int" 8 7) .nil <| .cons constant .nil <|
    .cons (Short.pointer 3 2) .nil <| .cons (Short.definition 4 "word_ref" 3) .nil <|
      .cons array dimensions <| .cons (Short.definition 9 "rows" 5) .nil <|
        .cons (Short.definition 10 "size_t" 1) .nil <| .cons (Short.base 11 "int" 4 5) .nil <|
          .cons (Short.definition 12 "bool" 11) .nil .nil

def forest : Forest := .cons Short.root tops .nil

def unit : CompilationUnit := forest.unit 14

theorem laidOut : unit.LaidOut forest unit.start unit.stop := Forest.laidOut_unit (by decide) rfl

theorem wellFormed : unit.WellFormed forest where
  laidOut := laidOut
  name_text := by decide
  reference_entry := by decide
  member_place := by decide
  noEndlessPath _ _ := CompilationUnit.noEndlessPath id (by decide)
  definition_name := by decide +kernel

theorem long_means : forest.Means 0 (some (.reference 1)) (.scalar .uint64) :=
  have hlong : Short.base 1 "long unsigned int" 8 7 ∈ forest.entries := by decide
  .of_base hlong rfl (by decide)

theorem rows_means : forest.Means 0 (some (.reference 5))
    (.array (.array (.pointer (.scalar .uint64)) 3) 2) := by
  have hconstant : forest.Means 0 (some (.reference constant.offset)) (.scalar .uint64) :=
    .synonym (by decide) rfl long_means
  have hpointer : forest.Means 0 (some (.reference (Short.pointer 3 2).offset))
      (.pointer (.scalar .uint64)) := .pointer (by decide) rfl hconstant
  have hdefinition : forest.Means 0 (some (.reference (Short.definition 4 "word_ref" 3).offset))
      (.pointer (.scalar .uint64)) := .synonym (by decide) rfl hpointer
  have htree : (array, dimensions) ∈ forest.subtrees := List.mem_of_getElem? (i := 5) rfl
  exact .array htree rfl hdefinition

theorem int_means : forest.Means 0 (some (.reference 11)) (.scalar .int32) :=
  have hint : Short.base 11 "int" 4 5 ∈ forest.entries := by decide
  .of_base hint rfl (by decide)

theorem declaredName?_base : ∀ base ∈ forest.entries, base.tag = .baseType →
    base.declaredName? ≠ some "rows" := by
  decide

end Definitions

theorem resolve_typeDefinition_iff_rows :
    Definitions.unit.WellFormed Definitions.forest ∧ Definitions.forest.definitionNames.Nodup ∧
      ∃ types, registryOf [Definitions.unit] = pure types ∧
        types.resolve "rows" = .ok (.array (.array (.pointer (.scalar .uint64)) 3) 2) ∧
        types.resolve "size_t" = .ok (.scalar .uint64) := by
  have hnames : Definitions.forest.definitionNames.Nodup := by decide
  obtain ⟨types, htypes, hresolve⟩ := resolve_typeDefinition_iff Definitions.wellFormed hnames
  refine ⟨Definitions.wellFormed, hnames, types, htypes, ?_, ?_⟩
  · obtain ⟨type, htype, hiff⟩ :=
      hresolve (Short.definition 9 "rows" 5) (by decide) rfl "rows" rfl
    cases htype.unique Definitions.wellFormed Definitions.rows_means
    exact hiff.2 ⟨nofun, fun _ base hbase hkind hfirst ↦
      absurd hfirst.declaredName?_eq (Definitions.declaredName?_base base hbase hkind)⟩
  · obtain ⟨type, htype, hiff⟩ :=
      hresolve (Short.definition 10 "size_t" 1) (by decide) rfl "size_t" rfl
    cases htype.unique Definitions.wellFormed Definitions.long_means
    have hbuiltIn : Registry.builtIn? "size_t" = some (.scalar .uint64) := rfl
    refine hiff.2 ⟨?_, fun hnone ↦ absurd (hbuiltIn.symm.trans hnone) nofun⟩
    exact fun known hknown ↦ (Option.some.inj (hbuiltIn.symm.trans hknown)).symm

/-- A name that means the same everywhere is not what it is defined as. -/
theorem resolve_typeDefinition_ne_bool :
    Definitions.unit.WellFormed Definitions.forest ∧ Definitions.forest.definitionNames.Nodup ∧
      Short.definition 12 "bool" 11 ∈ Definitions.forest.entries ∧
      Definitions.forest.Means 0 ((Short.definition 12 "bool" 11).attribute? .type)
        (.scalar .int32) ∧
      ∃ types, registryOf [Definitions.unit] = pure types ∧
        types.resolve "bool" = .ok (.scalar .bool) := by
  obtain ⟨types, htypes, -⟩ := Definitions.wellFormed.exists_registry
  refine ⟨Definitions.wellFormed, by decide, by decide, Definitions.int_means, types, htypes, ?_⟩
  have hidentifier : TypeName.IsIdentifier "bool" := by decide +kernel
  rw [Registry.resolve_isIdentifier_iff hidentifier, Registry.baseType?_eq]
  rfl

end MemoryInspector.DebugInfo
