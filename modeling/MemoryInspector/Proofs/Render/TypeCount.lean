import Std.Data.TreeMap.Lemmas
import MemoryInspector.Render.Display

/-!
# The types that occur in a registry

The types that occur in a type or in the layouts of a registry are as many as the bound of a
display counts, and whatever occurs in one of them is among them.
-/

namespace MemoryInspector

namespace CType

/-- The type and what stands under its constructors. -/
def parts : CType → List CType
  | pointer type => pointer type :: type.parts
  | array element length => array element length :: element.parts
  | void => [void]
  | scalar kind => [scalar kind]
  | record name => [record name]

theorem length_parts (type : CType) : type.parts.length = type.height := by
  induction type with
  | void | scalar | record => rfl
  | pointer type ih | array type _ ih =>
    unfold parts height
    rw [List.length_cons, ih]

theorem mem_parts_self (type : CType) : type ∈ type.parts := by
  cases type <;> exact List.mem_cons_self

theorem parts_subset {type part : CType} (h : part ∈ type.parts) : part.parts ⊆ type.parts := by
  induction type with
  | void | scalar | record =>
    cases List.mem_singleton.1 h
    exact List.Subset.refl _
  | pointer type ih | array type _ ih =>
    rcases List.mem_cons.1 h with rfl | hpart
    · exact List.Subset.refl _
    · exact List.subset_cons_of_subset _ (ih hpart)

end CType

namespace Registry

variable {types : Registry} {type part : CType}

/-- The types that occur in a type or in the layouts. -/
def knownTypes (types : Registry) (type : CType) : List CType :=
  type.parts ++ types.records.toList.flatMap fun entry ↦
    entry.2.fields.flatMap fun field ↦ field.type.parts

theorem foldl_height (fields : List Field) (count : Nat) :
    fields.foldl (fun count field ↦ count + field.type.height) count =
      count + (fields.flatMap fun field ↦ field.type.parts).length := by
  induction fields generalizing count with
  | nil => rfl
  | cons field rest ih =>
    rw [List.foldl_cons, ih, List.flatMap_cons, List.length_append, CType.length_parts, Nat.add_assoc]

theorem length_knownTypes (types : Registry) (type : CType) :
    (types.knownTypes type).length = types.typeCount type := by
  have hlayouts : ∀ (entries : List (String × RecordLayout)) (count : Nat),
      entries.foldl (fun count entry ↦
          entry.2.fields.foldl (fun count field ↦ count + field.type.height) count) count =
        count + (entries.flatMap fun entry ↦
          entry.2.fields.flatMap fun field ↦ field.type.parts).length := by
    intro entries
    induction entries with
    | nil =>
      intro count
      rfl
    | cons entry rest ih =>
      intro count
      rw [List.foldl_cons, ih, foldl_height, List.flatMap_cons, List.length_append, Nat.add_assoc]
  unfold knownTypes typeCount
  rw [List.length_append, CType.length_parts, Std.TreeMap.foldl_eq_foldl_toList, hlayouts]

theorem mem_knownTypes_self : type ∈ types.knownTypes type :=
  List.mem_append_left _ type.mem_parts_self

/-- The type of a field of some record is known. -/
theorem mem_knownTypes_field {name : String} {layout : RecordLayout} {field : Field}
    (hlayout : types.record? name = some layout) (hfield : field ∈ layout.fields) :
    field.type ∈ types.knownTypes type := by
  apply List.mem_append_right
  apply List.mem_flatMap.2
  refine ⟨(name, layout), Std.TreeMap.mem_toList_iff_getElem?_eq_some.2 hlayout, ?_⟩
  exact List.mem_flatMap.2 ⟨field, hfield, field.type.mem_parts_self⟩

/-- What occurs in a known type is known. -/
theorem mem_knownTypes_of_mem_parts {found : CType} (hfound : found ∈ types.knownTypes type)
    (hpart : part ∈ found.parts) : part ∈ types.knownTypes type := by
  unfold knownTypes at hfound ⊢
  rcases List.mem_append.1 hfound with hfound | hfound
  · exact List.mem_append_left _ (CType.parts_subset hfound hpart)
  · obtain ⟨entry, hentry, hfields⟩ := List.mem_flatMap.1 hfound
    obtain ⟨field, hfield, hparts⟩ := List.mem_flatMap.1 hfields
    apply List.mem_append_right
    apply List.mem_flatMap.2
    exact ⟨entry, hentry, List.mem_flatMap.2 ⟨field, hfield, CType.parts_subset hparts hpart⟩⟩

end Registry

end MemoryInspector
