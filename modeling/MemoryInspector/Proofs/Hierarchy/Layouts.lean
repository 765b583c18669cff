import MemoryInspector.Hierarchy.Layouts
import MemoryInspector.Proofs.Registry

/-!
# The entries of the built-in layouts

The records and the definitions that are built in, and no others.
-/

namespace MemoryInspector.Hierarchy

theorem record?_nodeType : types.record? nodeType = some nodeLayout := by decide

theorem record?_vectorType : types.record? vectorType = some vectorLayout := by decide

theorem record?_trx : types.record? "trx" = some stampLayout := by decide

/-- The record layouts that are built in. -/
theorem mem_of_record? {name : String} {layout : RecordLayout} (h : types.record? name = some layout) :
    name = layout.name ∧ layout ∈ [stampLayout, vectorLayout, nodeLayout] := by
  simp only [types, Registry.record?_define, Registry.record?_addRecord] at h
  split at h
  · next hname =>
    cases h
    exact ⟨hname.symm, by decide⟩
  · split at h
    · next hname =>
      cases h
      exact ⟨hname.symm, by decide⟩
    · split at h
      · next hname =>
        cases h
        exact ⟨hname.symm, by decide⟩
      · cases h

/-- The definitions that are built in. -/
theorem definition?_cases {name : String} {type : CType} (h : types.definition? name = some type) :
    name = "Selva_NodeId" ∧ type = idType ∨
      name = "SelvaHierarchyNodePtr" ∧ type = .pointer (.record nodeType) := by
  simp only [types, Registry.definition?_define, Registry.definition?_addRecord] at h
  split at h
  · next hname =>
    cases h
    exact .inr ⟨hname.symm, rfl⟩
  · split at h
    · next hname =>
      cases h
      exact .inl ⟨hname.symm, rfl⟩
    · cases h

theorem mem_of_definition? {name : String} {type : CType} (h : types.definition? name = some type) :
    type ∈ [idType, .pointer (.record nodeType)] := by
  rcases definition?_cases h with ⟨-, rfl⟩ | ⟨-, rfl⟩
  · exact List.mem_cons_self
  · exact List.mem_cons_of_mem _ List.mem_cons_self

end MemoryInspector.Hierarchy
