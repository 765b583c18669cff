import MemoryInspector.Proofs.Config.Fit
import MemoryInspector.Proofs.Descent
import MemoryInspector.Proofs.Hierarchy.Layouts
import MemoryInspector.Proofs.Registry.Size

/-!
# Records that contain themselves

Where all fields fit, a record is at least as large as any record that it contains, arrays without
elements apart. So a record that contains itself does so by fields that take up the whole of their
records, or by such an empty array. The check of configured fields excludes neither.
-/

namespace MemoryInspector

open Relation

namespace CType

/-- Values of the type are arrays without elements, or made of such arrays. -/
def isHollow : CType → Bool
  | array element length => length == 0 || element.isHollow
  | _ => false

end CType

namespace Registry

/-- A field by which the one record contains the other. -/
structure Embeds (types : Registry) (outer inner : String) (layout : RecordLayout) (field : Field) :
    Prop where
  record?_eq : types.record? outer = some layout
  mem_fields : field ∈ layout.fields
  embedded?_eq : field.type.embedded? = some inner

/-- A field of the one record holds the other one by value, alone or in arrays. -/
def Contains (types : Registry) (outer inner : String) : Prop :=
  ∃ layout field, types.Embeds outer inner layout field

/-- A field that holds the other record takes up the whole of the one. -/
def Fills (types : Registry) (outer inner : String) : Prop :=
  ∃ layout field, types.Embeds outer inner layout field ∧
    types.byteSize field.type = .ok layout.size.toNat

/-- A field has the other record as the element of an array that is empty. -/
def ContainsEmpty (types : Registry) (outer inner : String) : Prop :=
  ∃ layout field, types.Embeds outer inner layout field ∧ field.type.isHollow = true

/-- A field has the other record as an element of arrays that are not empty, or as such. -/
def ContainsSolid (types : Registry) (outer inner : String) : Prop :=
  ∃ layout field, types.Embeds outer inner layout field ∧ field.type.isHollow = false

variable {types : Registry} {outer inner name : String} {layout : RecordLayout} {type : CType}

/-- A type that is made of a record, and not of none of it, is at least as large as the record. -/
theorem recordSize_le_of_embedded {size : ℕ} (hembedded : type.embedded? = some name)
    (hsolid : type.isHollow = false) (hsize : types.byteSize type = .ok size) :
    types.recordSize name ≤ size := by
  induction type generalizing size with
  | void | scalar | pointer => cases hembedded
  | record other =>
    cases hembedded
    obtain ⟨layout, hlayout, ⟨⟩⟩ := Except.bind_eq_ok_iff.1 hsize
    exact (recordSize_eq (record_eq_ok_iff.1 hlayout)).le
  | array element length ih =>
    rw [CType.isHollow, Bool.or_eq_false_iff, beq_eq_false_iff_ne] at hsolid
    obtain ⟨elementSize, helement, -, rfl⟩ := byteSize_array_eq_ok_iff.1 hsize
    have hpos : 0 < length.toNat := UInt64.pos_iff_ne_zero.2 hsolid.1
    calc
      types.recordSize name ≤ elementSize := ih hembedded hsolid.2 helement
      _ ≤ elementSize * length.toNat := Nat.le_mul_of_pos_right elementSize hpos

section Fit

variable (hfit : ∀ name layout, types.record? name = some layout → types.FieldsFit layout)
include hfit

theorem recordSize_le_of_containsSolid (h : types.ContainsSolid outer inner) :
    types.recordSize inner ≤ types.recordSize outer := by
  obtain ⟨layout, field, hembeds, hsolid⟩ := h
  obtain ⟨size, hsize, hle⟩ := hfit outer layout hembeds.record?_eq field hembeds.mem_fields
  calc
    types.recordSize inner ≤ size := recordSize_le_of_embedded hembeds.embedded?_eq hsolid hsize
    _ ≤ layout.size.toNat := (Nat.le_add_left _ _).trans hle
    _ = types.recordSize outer := (recordSize_eq hembeds.record?_eq).symm

/-- A record that is no larger than the one that it contains is filled by it. -/
theorem fills_of_containsSolid (h : types.ContainsSolid outer inner)
    (hle : types.recordSize outer ≤ types.recordSize inner) : types.Fills outer inner := by
  obtain ⟨layout, field, hembeds, hsolid⟩ := h
  obtain ⟨size, hsize, hfits⟩ := hfit outer layout hembeds.record?_eq field hembeds.mem_fields
  have hinner := recordSize_le_of_embedded hembeds.embedded?_eq hsolid hsize
  rw [recordSize_eq hembeds.record?_eq] at hle
  have hwhole : size = layout.size.toNat := by omega
  exact ⟨layout, field, hembeds, hwhole ▸ hsize⟩

theorem not_transGen_contains_iff : (∀ name, ¬ TransGen types.Contains name name) ↔
    (∀ name, ¬ TransGen types.Fills name name) ∧
      ∀ outer inner, types.ContainsEmpty outer inner → ¬ ReflTransGen types.Contains inner outer := by
  constructor
  · intro hacyclic
    constructor
    · intro name hfills
      apply hacyclic name
      apply TransGen.mono _ _ _ hfills
      rintro outer inner ⟨layout, field, hembeds, -⟩
      exact ⟨layout, field, hembeds⟩
    · rintro outer inner ⟨layout, field, hembeds, -⟩ hback
      exact hacyclic outer (.head' ⟨layout, field, hembeds⟩ hback)
  · rintro ⟨hfills, hempty⟩ name hself
    have hsplit : ∀ outer inner, types.Contains outer inner →
        types.ContainsSolid outer inner ∨ types.ContainsEmpty outer inner := by
      rintro outer inner ⟨layout, field, hembeds⟩
      cases hhollow : field.type.isHollow with
      | false => exact .inl ⟨layout, field, hembeds, hhollow⟩
      | true => exact .inr ⟨layout, field, hembeds, hhollow⟩
    rcases transGen_or_exists hsplit hself with hsolid | ⟨outer, inner, hnone, hto, hfrom⟩
    · apply hfills name
      have hdown : ∀ outer inner, types.ContainsSolid outer inner →
          types.recordSize inner ≤ types.recordSize outer :=
        fun _ _ ↦ recordSize_le_of_containsSolid hfit
      have hlevel := transGen_level hdown hsolid le_rfl
      apply TransGen.mono _ _ _ hlevel
      rintro outer inner ⟨hsolid, hle⟩
      exact fills_of_containsSolid hfit hsolid hle
    · exact hempty outer inner hnone (hfrom.trans hto)

end Fit

end Registry

/-! ## Configurations of the built-in layouts -/

namespace Config

open Hierarchy

variable {config : Config} {types : Registry}

/-- All records have their fields inside, if nodes have. -/
theorem fieldsFit_of_record? (hsizes : SizesAgree config.records)
    (h : config.typeRegistry Hierarchy.types = .ok types)
    (hnode : ∀ layout, types.record? nodeType = some layout → types.FieldsFit layout) {name : String}
    {layout : RecordLayout} (hlayout : types.record? name = some layout) : types.FieldsFit layout := by
  obtain ⟨named, hnamed, hcompleted⟩ := completed_of_typeRegistry hsizes h
  by_cases hname : ∃ record ∈ config.records, record.name = name
  · obtain ⟨record, hrecord, rfl⟩ := hname
    obtain ⟨other, hother, hfit⟩ := hcompleted.exists_fieldsFit hrecord
    rw [hother] at hlayout
    cases hlayout
    exact hfit
  · simp only [not_exists, not_and] at hname
    have hbase : Hierarchy.types.record? name = some layout := by
      rw [← hlayout, hcompleted.record?_of_forall_ne name hname, record?_of_applyDefinitions hnamed,
        record?_declareRecords_of_forall_ne hname]
    obtain ⟨rfl, hbuiltIn⟩ := mem_of_record? hbase
    simp only [List.mem_cons, List.not_mem_nil, or_false] at hbuiltIn
    rcases hbuiltIn with rfl | rfl | rfl
    · simp only [Registry.FieldsFit, stampLayout, List.forall_mem_cons]
      exact ⟨⟨8, rfl, by decide⟩, ⟨8, rfl, by decide⟩, List.forall_mem_nil _⟩
    · simp only [Registry.FieldsFit, vectorLayout, List.forall_mem_cons]
      exact ⟨⟨4, rfl, by decide⟩, ⟨8, rfl, by decide⟩, ⟨8, rfl, by decide⟩, ⟨8, rfl, by decide⟩,
        ⟨8, rfl, by decide⟩, ⟨8, rfl, by decide⟩, List.forall_mem_nil _⟩
    · exact hnode _ hlayout

/-- A record around a node and another one, which is no more than a stamp. -/
def stampedConfig : Config where
  records := [⟨"stamped", 144, [⟨"node", 0, "SelvaHierarchyNode"⟩, ⟨"when", 128, "when_t"⟩]⟩,
    ⟨"when", 16, [⟨"time", 0, "struct trx"⟩]⟩]
  definitions := (∅ : Std.TreeMap String String).insert "when_t" "struct when [1]"

/-- The registry of the configuration, of which only the stamp fills its record. -/
theorem exists_typeRegistry_stamped :
    ∃ types, stampedConfig.typeRegistry Hierarchy.types = .ok types ∧
      types.record? nodeType = some nodeLayout ∧ types.FieldsFit nodeLayout ∧
      types.Fills "when" "trx" ∧
      (∀ outer inner, types.Fills outer inner → outer = "when" ∧ inner = "trx") ∧
      ∀ outer inner, ¬ types.ContainsEmpty outer inner := by
  have hchecked : (stampedConfig.typeRegistry Hierarchy.types).map (fun types ↦ decide
      ((types.record? nodeType = some nodeLayout ∧ types.FieldsFit nodeLayout) ∧
        (types.record? "when" = some ⟨"when", 16, [⟨"time", 0, .record "trx"⟩]⟩ ∧
          types.byteSize (.record "trx") = .ok 16) ∧
        ∀ entry ∈ types.records.toList, ∀ field ∈ entry.2.fields,
          field.type.isHollow = false ∧ (field.type.embedded?.isSome →
            types.byteSize field.type = .ok entry.2.size.toNat → entry.1 = "when" ∧
              field.type.embedded? = some "trx"))) = .ok true := by
    decide +kernel
  obtain ⟨types, htypes, hfacts⟩ := Except.map_eq_ok_iff.1 hchecked
  obtain ⟨⟨hnode, hnodeFit⟩, ⟨hwhen, htrx⟩, hfields⟩ := of_decide_eq_true hfacts
  have hentry : ∀ {name layout}, types.record? name = some layout →
      (name, layout) ∈ types.records.toList := Std.TreeMap.mem_toList_iff_getElem?_eq_some.2
  refine ⟨types, htypes, hnode, hnodeFit, ⟨_, _, ⟨hwhen, List.mem_cons_self, rfl⟩, htrx⟩, ?_, ?_⟩
  · rintro outer inner ⟨layout, field, hembeds, hwhole⟩
    have hfield := (hfields _ (hentry hembeds.record?_eq) field hembeds.mem_fields).2
    rw [hembeds.embedded?_eq] at hfield
    obtain ⟨houter, hinner⟩ := hfield rfl hwhole
    exact ⟨houter, Option.some.inj hinner⟩
  · rintro outer inner ⟨layout, field, hembeds, hhollow⟩
    have hsolid := (hfields _ (hentry hembeds.record?_eq) field hembeds.mem_fields).1
    cases hhollow.symm.trans hsolid

/-- A record whose only field is as large as the record, because it is one. -/
def selfConfig : Config where
  records := [⟨"loop", 8, [⟨"next", 0, "loop"⟩]⟩]

end Config

end MemoryInspector
