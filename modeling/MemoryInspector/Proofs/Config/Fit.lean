import MemoryInspector.Hierarchy.Layouts
import MemoryInspector.Proofs.Config.Application

/-!
# Configured fields fit into their records

A configured field is checked against the sizes that are known when its record gets its fields.
These are the sizes in the end unless a later entry for a record gives it another size.
-/

namespace MemoryInspector

/-- Each field of the layout has a size and ends inside the record. -/
def Registry.FieldsFit (types : Registry) (layout : RecordLayout) : Prop :=
  ∀ field ∈ layout.fields, ∃ size, types.byteSize field.type = .ok size ∧
    field.offset.toNat + size ≤ layout.size.toNat

instance (types : Registry) (layout : RecordLayout) : Decidable (types.FieldsFit layout) :=
  decidable_of_iff (∀ field ∈ layout.fields, (types.byteSize field.type).toOption.any
      fun size ↦ field.offset.toNat + size ≤ layout.size.toNat) <| by
    simp only [Registry.FieldsFit, Option.any_eq_true, Except.toOption_eq_some_iff, decide_eq_true_eq]

namespace Config

variable {config : Config} {base types named : Registry} {records : List RecordEntry}
  {record : RecordEntry} {layout : RecordLayout}

theorem fieldsFit_of_layoutOf (h : layoutOf types record = .ok layout) : types.FieldsFit layout := by
  obtain ⟨-, hsize, hfields⟩ := layoutOf_eq_ok_iff.1 h
  unfold Registry.FieldsFit
  rw [hsize]
  generalize record.fields = entries, layout.fields = fields at hfields
  clear h
  induction hfields with
  | nil => exact List.forall_mem_nil _
  | cons hfield _ ih =>
    obtain ⟨type, size, -, hsize, hfits, rfl⟩ := fieldOf_eq_ok_iff.1 hfield
    exact List.forall_mem_cons.2 ⟨⟨size, hsize, hfits⟩, ih⟩

theorem Completed.exists_fieldsFit (h : Completed named records types) (hrecord : record ∈ records) :
    ∃ layout, types.record? record.name = some layout ∧ types.FieldsFit layout := by
  obtain ⟨source, -, -, layout, hlayout, hfound⟩ := h.record?_of_mem record hrecord
  rw [← layoutOf_congr h.outline] at hlayout
  exact ⟨layout, hfound, fieldsFit_of_layoutOf hlayout⟩

/-- In an accepted configuration whose entries for one record agree on its size, each configured
record has all its fields inside it. -/
theorem fieldsFit_of_typeRegistry (hsizes : SizesAgree config.records)
    (h : config.typeRegistry base = .ok types) :
    ∀ record ∈ config.records,
      ∃ layout, types.record? record.name = some layout ∧ types.FieldsFit layout := by
  obtain ⟨named, -, hcompleted⟩ := completed_of_typeRegistry hsizes h
  exact fun record ↦ hcompleted.exists_fieldsFit

/-- Cells are mentioned before they get their field, and are configured twice. -/
def cellConfig : Config where
  records := [⟨"cell", 4, []⟩, ⟨"pair", 12, [⟨"cells", 4, "cell[2]"⟩]⟩,
    ⟨"cell", 4, [⟨"value", 0, "int"⟩]⟩]

theorem fieldsFit_of_typeRegistry_cell :
    SizesAgree cellConfig.records ∧
    ∃ types, cellConfig.typeRegistry Hierarchy.types = .ok types ∧
      types.record? "pair" = some ⟨"pair", 12, [⟨"cells", 4, .array (.record "cell") 2⟩]⟩ ∧
      ∀ record ∈ cellConfig.records,
        ∃ layout, types.record? record.name = some layout ∧ types.FieldsFit layout := by
  have hsizes : SizesAgree cellConfig.records := by
    unfold SizesAgree
    decide
  have hpair : (cellConfig.typeRegistry Hierarchy.types).map (·.record? "pair") =
      .ok (some ⟨"pair", 12, [⟨"cells", 4, .array (.record "cell") 2⟩]⟩) := by
    decide +kernel
  obtain ⟨types, htypes, hfound⟩ := Except.map_eq_ok_iff.1 hpair
  exact ⟨hsizes, types, htypes, hfound, fieldsFit_of_typeRegistry hsizes htypes⟩

/-- A cell has four bytes when the pair is checked, and eight in the end. -/
def grownCellConfig : Config where
  records := [⟨"cell", 4, []⟩, ⟨"pair", 4, [⟨"first", 0, "cell"⟩]⟩, ⟨"cell", 8, []⟩]

theorem not_fieldsFit_grownCell :
    ∃ types layout, grownCellConfig.typeRegistry Hierarchy.types = .ok types ∧
      types.record? "pair" = some layout ∧ ¬ types.FieldsFit layout := by
  have hpair : (grownCellConfig.typeRegistry Hierarchy.types).map (fun types ↦
      (types.record? "pair", types.byteSize (.record "cell"))) =
      .ok (some ⟨"pair", 4, [⟨"first", 0, .record "cell"⟩]⟩, .ok 8) := by
    decide +kernel
  obtain ⟨types, htypes, hfound⟩ := Except.map_eq_ok_iff.1 hpair
  obtain ⟨hrecord, hcell⟩ := Prod.mk.inj hfound
  refine ⟨types, _, htypes, hrecord, ?_⟩
  intro hfit
  obtain ⟨size, hsize, hle⟩ := hfit _ List.mem_cons_self
  rw [hcell] at hsize
  cases hsize
  exact absurd hle (by decide)

end Config

end MemoryInspector
