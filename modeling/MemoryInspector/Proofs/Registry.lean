import Mathlib.Data.List.Nodup
import Std.Data.TreeMap.Lemmas
import MemoryInspector.Proofs.Outcome
import MemoryInspector.Registry

/-!
# Look-ups in registries

What an added layout or definition changes, and on how much of a registry the meaning of a name and
the size of a type depend: on the definitions and on the sizes of the records, but not on fields.
-/

namespace MemoryInspector.Registry

variable {types types' types'' : Registry} {layout : RecordLayout} {name key : String} {type : CType}

theorem record_eq_ok_iff : types.record name = .ok layout ↔ types.record? name = some layout := by
  unfold record
  cases types.record? name <;> simp

theorem record?_addRecord : (types.addRecord layout).record? name =
    if layout.name = name then some layout else types.record? name := by
  unfold addRecord record?
  simp only [Std.TreeMap.getElem?_insert, Std.LawfulEqCmp.compare_eq_iff_eq]

theorem definition?_define : (types.define key type).definition? name =
    if key = name then some type else types.definition? name := by
  unfold define definition?
  simp only [Std.TreeMap.getElem?_insert, Std.LawfulEqCmp.compare_eq_iff_eq]

@[simp]
theorem definition?_addRecord : (types.addRecord layout).definition? name = types.definition? name :=
  rfl

@[simp]
theorem record?_define : (types.define key type).record? name = types.record? name := rfl

/-! ## Meanings of names -/

/-- The meaning of a base depends on its own entries alone, and after a tag on the record alone. -/
theorem baseType?_congr {tagged : Bool}
    (hrecord : (types.record? name).isSome = (types'.record? name).isSome)
    (hdefinition : tagged = false → types.definition? name = types'.definition? name) :
    types.baseType? tagged name = types'.baseType? tagged name := by
  have hasRecord : (types.record? name).map (fun _ ↦ CType.record name) =
      (types'.record? name).map fun _ ↦ CType.record name := by
    cases hfound : types.record? name <;> cases hfound' : types'.record? name <;> simp_all
  unfold baseType?
  rw [hasRecord]
  split
  · rfl
  · next hplain => rw [hdefinition (Bool.eq_false_iff.2 hplain)]

/-- What a name without a tag means in every registry. -/
def builtIn? (name : String) : Option CType :=
  if name = "void" then some .void else (Scalar.ofCName? name).map .scalar

/-- What means the same in every registry is no record. -/
theorem builtIn?_ne_record (name record : String) : builtIn? name ≠ some (.record record) := by
  unfold builtIn?
  split
  · nofun
  · cases Scalar.ofCName? name <;> nofun

/-- A name that means the same in every registry goes before definitions and records. -/
theorem baseType?_eq : types.baseType? false name = (builtIn? name).or
    ((types.definition? name).or ((types.record? name).map fun _ ↦ .record name)) := by
  unfold baseType? builtIn?
  rw [if_neg Bool.false_ne_true]
  split
  · rfl
  · cases Scalar.ofCName? name <;> rfl

/-- Stars and a length tell apart what different bases mean. -/
theorem typeNamed?_eq_iff {written : TypeName} : types.typeNamed? written = types'.typeNamed? written ↔
    types.baseType? written.tagged written.base = types'.baseType? written.tagged written.base := by
  have hpointers : ∀ stars (first second : CType), pointers first stars = pointers second stars →
      first = second := by
    intro stars first second
    induction stars with
    | zero => exact id
    | succ stars ih => exact fun h ↦ ih (CType.pointer.inj h)
  constructor
  · intro h
    refine Option.map_injective ?_ h
    intro first second htype
    apply hpointers written.stars
    cases hlength : written.length with
    | none => simpa only [hlength] using htype
    | some length =>
      simp only [hlength] at htype
      exact (CType.array.inj htype).1
  · intro h
    unfold typeNamed?
    rw [h]

theorem resolve_eq_ok_iff {text : String} : types.resolve text = .ok type ↔
    ∃ written, TypeName.read? text.toList = some written ∧ types.typeNamed? written = some type := by
  rw [← Option.bind_eq_some_iff]
  unfold resolve
  split
  · next found hfound => simp [hfound]
  · next hnone => simp [hnone]

/-- A text that means nothing is refused by itself. -/
theorem eq_unknownName_of_resolve {text : String} {e : InspectError} (h : types.resolve text = .error e) :
    e = .unknownName text := by
  unfold resolve at h
  split at h
  · cases h
  · cases h
    rfl

/-- A property of types that pointers and arrays keep, and that the entries of the registry have,
holds of what any text means. -/
theorem resolve_induction {holds : CType → Prop} {text : String} (hvoid : holds .void)
    (hscalar : ∀ kind, holds (.scalar kind))
    (hdefinition : ∀ name type, types.definition? name = some type → holds type)
    (hrecord : ∀ name layout, types.record? name = some layout → holds (.record name))
    (hpointer : ∀ type, holds type → holds (.pointer type))
    (harray : ∀ type length, holds type → holds (.array type length))
    (h : types.resolve text = .ok type) : holds type := by
  obtain ⟨written, -, hnamed⟩ := resolve_eq_ok_iff.1 h
  obtain ⟨base, hbase, htype⟩ := Option.map_eq_some_iff.1 hnamed
  have hasRecord : ∀ found, ((types.record? written.base).map fun _ ↦ CType.record written.base) =
      some found → holds found := by
    intro found hfound
    obtain ⟨layout, hlayout, rfl⟩ := Option.map_eq_some_iff.1 hfound
    exact hrecord written.base layout hlayout
  have hbaseHolds : holds base := by
    simp only [baseType?] at hbase
    split at hbase
    · exact hasRecord base hbase
    · split at hbase
      · cases hbase
        exact hvoid
      · split at hbase
        · cases hbase
          exact hscalar _
        · rcases Option.or_eq_some_iff.1 hbase with hfound | ⟨-, hfound⟩
          · exact hdefinition written.base base hfound
          · exact hasRecord base hfound
  have hpointers : ∀ stars, holds (pointers base stars) := by
    intro stars
    induction stars with
    | zero => exact hbaseHolds
    | succ stars ih => exact hpointer _ ih
  dsimp only at htype
  split at htype
  · subst htype
    exact harray _ _ (hpointers written.stars)
  · subst htype
    exact hpointers written.stars

/-! ## Sizes -/

theorem valueSize_eq_ok_iff {size : Nat} :
    types.valueSize type = .ok size ↔ types.byteSize type = .ok size ∧ size ≤ maxValueSize := by
  rw [valueSize, Except.bind_eq_ok_iff]
  constructor
  · rintro ⟨found, hfound, h⟩
    split at h
    · next hle =>
      cases h
      exact ⟨hfound, hle⟩
    · cases h
  · rintro ⟨hsize, hle⟩
    exact ⟨size, hsize, if_pos hle⟩

theorem byteSize_of_valueSize {size : Nat} (h : types.valueSize type = .ok size) :
    types.byteSize type = .ok size :=
  (valueSize_eq_ok_iff.1 h).1

theorem byteSize_array_eq_ok_iff {element : CType} {length : UInt64} {size : Nat} :
    types.byteSize (.array element length) = .ok size ↔ ∃ elementSize,
      types.byteSize element = .ok elementSize ∧ elementSize * length.toNat < UInt64.size ∧
        size = elementSize * length.toNat := by
  rw [byteSize, Except.bind_eq_ok_iff]
  apply exists_congr
  intro elementSize
  apply and_congr_right
  intro _
  split
  · next hlt => simp only [hlt, true_and, Except.ok.injEq, eq_comm]
  · next hle => simp only [hle, false_and, reduceCtorEq]

theorem byteSize_bytes (types : Registry) (length : UInt64) :
    types.byteSize (.array (.scalar .uint8) length) = .ok length.toNat :=
  byteSize_array_eq_ok_iff.2 ⟨1, rfl, (Nat.one_mul _).symm ▸ length.toNat_lt, (Nat.one_mul _).symm⟩

/-! ## Outlines -/

/-- The registries have the same definitions, and records of the same names and sizes, though
perhaps not of the same fields. -/
structure SameOutline (types types' : Registry) : Prop where
  size_eq : ∀ name, (types.record? name).map (·.size) = (types'.record? name).map (·.size)
  definition_eq : ∀ name, types.definition? name = types'.definition? name

namespace SameOutline

theorem refl (types : Registry) : types.SameOutline types := ⟨fun _ ↦ rfl, fun _ ↦ rfl⟩

theorem trans (h : types.SameOutline types') (h' : types'.SameOutline types'') :
    types.SameOutline types'' :=
  ⟨fun name ↦ (h.size_eq name).trans (h'.size_eq name),
    fun name ↦ (h.definition_eq name).trans (h'.definition_eq name)⟩

theorem isSome_eq (h : types.SameOutline types') (name : String) :
    (types.record? name).isSome = (types'.record? name).isSome := by
  have hsize := congrArg Option.isSome (h.size_eq name)
  rwa [Option.isSome_map, Option.isSome_map] at hsize

theorem resolve_eq (h : types.SameOutline types') (text : String) :
    types.resolve text = types'.resolve text := by
  have htypeNamed : types.typeNamed? = types'.typeNamed? := by
    funext written
    rw [typeNamed?_eq_iff]
    exact baseType?_congr (h.isSome_eq _) fun _ ↦ h.definition_eq _
  unfold resolve
  rw [htypeNamed]

theorem byteSize_eq (h : types.SameOutline types') (type : CType) :
    types.byteSize type = types'.byteSize type := by
  induction type with
  | void | scalar | pointer => rfl
  | array element length ih =>
    unfold byteSize
    rw [ih]
  | record name =>
    have hsize := h.size_eq name
    simp only [byteSize, record]
    cases hfound : types.record? name <;> cases hfound' : types'.record? name <;>
      simp_all

/-- A layout in place of one of the same size. -/
theorem addRecord (h : (types.record? layout.name).map (·.size) = some layout.size) :
    (types.addRecord layout).SameOutline types where
  size_eq name := by
    rw [record?_addRecord]
    split
    · next hname =>
      rw [← hname, h]
      rfl
    · rfl
  definition_eq _ := rfl

theorem define (h : types.SameOutline types') (key : String) (type : CType) :
    (types.define key type).SameOutline (types'.define key type) where
  size_eq := h.size_eq
  definition_eq name := by rw [definition?_define, definition?_define, h.definition_eq]

end SameOutline

/-! ## Entries -/

/-- The registries have the same records and the same definitions. -/
structure SameEntries (types types' : Registry) : Prop where
  records : types.records.Equiv types'.records
  definitions : types.definitions.Equiv types'.definitions

theorem equiv_of_getElem?_eq {β : Type} {first second : Std.TreeMap String β}
    (h : ∀ name : String, first[name]? = second[name]?) : first.Equiv second := by
  have hnodup : ∀ map : Std.TreeMap String β, map.toList.Nodup := by
    intro map
    apply List.Nodup.of_map Prod.fst
    rw [Std.TreeMap.map_fst_toList_eq_keys]
    exact Std.TreeMap.nodup_keys
  apply Std.TreeMap.Equiv.of_toList_perm
  rw [List.perm_ext_iff_of_nodup (hnodup first) (hnodup second)]
  rintro ⟨name, entry⟩
  rw [Std.TreeMap.mem_toList_iff_getElem?_eq_some, Std.TreeMap.mem_toList_iff_getElem?_eq_some, h]

theorem SameEntries.of_lookups (hrecord : ∀ name, types.record? name = types'.record? name)
    (hdefinition : ∀ name, types.definition? name = types'.definition? name) :
    types.SameEntries types' :=
  ⟨equiv_of_getElem?_eq hrecord, equiv_of_getElem?_eq hdefinition⟩

theorem SameEntries.definition?_eq (h : types.SameEntries types') (name : String) :
    types.definition? name = types'.definition? name := h.definitions.getElem?_eq

end MemoryInspector.Registry
