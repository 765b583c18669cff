import MemoryInspector.Proofs.Config.Fit
import MemoryInspector.Proofs.Descent
import MemoryInspector.Proofs.Hierarchy.Node
import MemoryInspector.Proofs.Memory.Region
import MemoryInspector.Proofs.Render.TypeCount

/-!
# Values that are shown whole

A display reads each element and each field anew, at an address of its own. Where the fields of all
records fit, these reads stay inside the range of the value, arrays of records and parts without any
bytes included. So if the bytes of the value can be read, none of its parts is marked as a failure.
-/

namespace MemoryInspector

open Relation Rendering

/-! ## Parts of types -/

/-- Values of the one type hold values of the other one, as elements or in a field of a record. -/
inductive Registry.HasPart (types : Registry) : CType → CType → Prop
  | element (element : CType) (length : UInt64) : types.HasPart (.array element length) element
  | field {name : String} {layout : RecordLayout} {field : Field}
      (hlayout : types.record? name = some layout) (hfield : field ∈ layout.fields) :
      types.HasPart (.record name) field.type

namespace Registry

variable {types : Registry} {type part : CType}

theorem mem_knownTypes_of_hasParts (h : ReflTransGen types.HasPart type part) :
    part ∈ types.knownTypes type := by
  induction h with
  | refl => exact mem_knownTypes_self
  | tail _ hstep ih =>
    cases hstep with
    | element element length =>
      exact mem_knownTypes_of_mem_parts ih (List.mem_cons_of_mem _ (CType.mem_parts_self _))
    | field hlayout hfield => exact mem_knownTypes_field hlayout hfield

end Registry

namespace Hierarchy

/-- A type whose values are displayed as they are: neither a node nor a pointer to one, of a size that
is read in one piece, with a layout that fits if it is a record, and not a part of itself. -/
structure Plain (types : Registry) (type : CType) : Prop where
  exists_layout : ∀ name, type = .record name →
    ∃ layout, types.record? name = some layout ∧ types.FieldsFit layout
  exists_size : ∃ size, types.valueSize type = .ok size
  ne_node : type ≠ .record nodeType
  ne_nodePointer : type ≠ .pointer (.record nodeType)
  not_hasPart_self : ¬ TransGen types.HasPart type type

/-- The type is plain, and so is each part of its values at any depth. -/
def PlainThroughout (types : Registry) (type : CType) : Prop :=
  ∀ part, ReflTransGen types.HasPart type part → Plain types part

/-- A type whose parts are plain throughout is none of them. -/
theorem PlainThroughout.of_parts {types : Registry} {type : CType}
    (hlayout : ∀ name, type = .record name →
      ∃ layout, types.record? name = some layout ∧ types.FieldsFit layout)
    (hsize : ∃ size, types.valueSize type = .ok size) (hnode : type ≠ .record nodeType)
    (hnodePointer : type ≠ .pointer (.record nodeType))
    (hparts : ∀ part, types.HasPart type part → PlainThroughout types part) :
    PlainThroughout types type := by
  intro part hpart
  rcases ReflTransGen.cases_head hpart with rfl | ⟨first, hfirst, hrest⟩
  · refine ⟨hlayout, hsize, hnode, hnodePointer, ?_⟩
    intro hself
    obtain ⟨first, hfirst, hrest⟩ := TransGen.head'_iff.1 hself
    exact (hparts first hfirst type hrest).not_hasPart_self hself
  · exact hparts first hfirst part hrest

theorem plainThroughout_scalar (types : Registry) (kind : Scalar) :
    PlainThroughout types (.scalar kind) := by
  have hsize : types.valueSize (.scalar kind) = .ok kind.size := types.valueSize_scalar kind
  exact .of_parts nofun ⟨_, hsize⟩ nofun nofun nofun

/-- What a pointer points to is no part of its value. -/
theorem plainThroughout_pointer (types : Registry) {pointee : CType}
    (hnode : pointee ≠ .record nodeType) : PlainThroughout types (.pointer pointee) := by
  refine .of_parts nofun ⟨8, types.valueSize_pointer pointee⟩ nofun ?_ nofun
  intro h
  exact hnode (CType.pointer.inj h)

theorem plainThroughout_array {types : Registry} {element : CType} {length : UInt64}
    (hsize : ∃ size, types.valueSize (.array element length) = .ok size)
    (helement : PlainThroughout types element) : PlainThroughout types (.array element length) := by
  refine .of_parts nofun hsize nofun nofun ?_
  rintro _ ⟨⟩
  exact helement

theorem plainThroughout_record {types : Registry} {name : String} {layout : RecordLayout}
    (hlayout : types.record? name = some layout) (hfit : types.FieldsFit layout)
    (hsize : ∃ size, types.valueSize (.record name) = .ok size) (hnode : name ≠ nodeType)
    (hfields : ∀ field ∈ layout.fields, PlainThroughout types field.type) :
    PlainThroughout types (.record name) := by
  refine .of_parts ?_ hsize (fun h ↦ hnode (CType.record.inj h)) nofun ?_
  · rintro _ ⟨⟩
    exact ⟨layout, hlayout, hfit⟩
  · rintro _ (_ | ⟨hfound, hfield⟩)
    cases hfound.symm.trans hlayout
    exact hfields _ hfield

end Hierarchy

/-! ## Texts without markers -/

/-- The text shows the value with all its parts, none of which has failed. -/
inductive ShownWhole (target : Target) : Value → String → Prop
  | void {value : Value} (htype : value.type = .void) :
      ShownWhole target value "<data variable, no debug info>"
  | scalar {value : Value} {kind : Scalar} {text : String} (htype : value.type = .scalar kind)
      (htext : scalarText target value kind = .ok text) : ShownWhole target value text
  | pointer {value : Value} {pointee : CType} {bits : UInt64} (htype : value.type = .pointer pointee)
      (hbits : target.readBits value = .ok bits) :
      ShownWhole target value s!"0x{Text.hex bits.toNat}"
  | string {value : Value} {length : UInt64} {bytes : List UInt8}
      (htype : value.type = .array (.scalar .char) length) (hbytes : target.readBytes value = .ok bytes) :
      ShownWhole target value (Text.quoteString bytes)
  | array {address : UInt64} {element : CType} {length : UInt64} {elements : List Value}
      {texts : List String} (hne : element ≠ .scalar .char)
      (helements : target.readArray address element length.toNat = .ok elements)
      (htexts : List.Forall₂ (ShownWhole target) elements texts) :
      ShownWhole target (.atAddress address (.array element length)) (braced texts)
  | record {value : Value} {name : String} {layout : RecordLayout} {members : List Value}
      {texts : List String} (htype : value.type = .record name)
      (hlayout : target.types.record? name = some layout)
      (hmembers : layout.fields.mapM (fun field ↦ target.field value field.name) = .ok members)
      (htexts : List.Forall₂ (ShownWhole target) members texts) :
      ShownWhole target value
        (braced (List.zipWith (fun field text ↦ s!"{field.name} = {text}") layout.fields texts))

/-- The display succeeds, with a text that shows the value whole. -/
def Shows (target : Target) (display : Value → Rendering String) (value : Value) : Prop :=
  ∃ text, display value = pure text ∧ ShownWhole target value text

section NativeForm

variable {target : Target} {display : Value → Rendering String} {value : Value} {address : UInt64}
  {element : CType} {length : UInt64} {layout : RecordLayout}

/-- An array is shown whole if its elements are. -/
theorem shows_nativeForm_array (hne : element ≠ .scalar .char) {size : Nat}
    (hsize : target.types.valueSize (.array element length) = .ok size) {elements : List Value}
    (helements : target.readArray address element length.toNat = .ok elements)
    (hparts : ∀ part ∈ elements, Shows target display part) :
    Shows target (nativeForm display target) (.atAddress address (.array element length)) := by
  obtain ⟨texts, htexts⟩ := List.exists_forall₂ hparts
  have hshown : elements.mapM (fun part ↦ (display part).inPlace) = pure texts := by
    apply List.mapM_eq_pure
    apply htexts.imp
    intro part text h
    rw [h.1]
    rfl
  refine ⟨braced texts, ?_, .array hne helements (htexts.imp fun part text h ↦ h.2)⟩
  unfold nativeForm
  split
  · next htype => cases htype
  · next htype => cases htype
  · next htype => cases htype
  · next htype =>
    cases htype
    exact absurd rfl hne
  · next htype =>
    cases htype
    simp only [Value.type_atAddress, hsize, liftM_ok, pure_bind, Value.address?_atAddress, helements,
      hshown]
  · next htype => cases htype

/-- Parts that are found one for each field, and shown one by one. -/
theorem forall₂_zipWith {α β γ : Type} {found : Field → α → Prop} {shown : α → γ → Prop}
    {result : Field → β → Prop} {line : Field → γ → β} {fields : List Field} {members : List α}
    {texts : List γ} (hfound : List.Forall₂ found fields members)
    (hshown : List.Forall₂ shown members texts)
    (h : ∀ field member text, found field member → shown member text →
      result field (line field text)) :
    List.Forall₂ result fields (List.zipWith line fields texts) := by
  induction hfound generalizing texts with
  | nil => exact .nil
  | cons hfirst _ ih =>
    cases hshown with
    | cons htext hrest => exact .cons (h _ _ _ hfirst htext) (ih hrest)

/-- A record is shown whole if its members are. -/
theorem shows_nativeForm_record {name : String} (htype : value.type = .record name)
    (hlayout : target.types.record? name = some layout)
    (hparts : ∀ field ∈ layout.fields,
      ∃ member, target.field value field.name = .ok member ∧ Shows target display member) :
    Shows target (nativeForm display target) value := by
  obtain ⟨members, hmembers⟩ := List.exists_forall₂ hparts
  have hshows : ∀ member ∈ members, Shows target display member :=
    ((List.forall₂_and_left _ _).1 (hmembers.flip.imp fun _ _ h ↦ h.symm)).1
  obtain ⟨texts, htexts⟩ := List.exists_forall₂ hshows
  refine ⟨_, ?_, .record htype hlayout (Except.mapM_eq_ok_iff.2 (hmembers.imp fun _ _ h ↦ h.1))
    (htexts.imp fun _ _ h ↦ h.2)⟩
  unfold nativeForm
  simp only [htype, Registry.record_eq_ok_iff.2 hlayout, liftM_ok, pure_bind]
  rw [List.mapM_eq_pure (forall₂_zipWith hmembers htexts ?_), pure_bind]
  intro field member text hfield htext
  simp only [hfield.1, htext.1]
  rfl

end NativeForm

namespace Hierarchy

/-! ## Reads inside a readable range -/

section Range

variable {target : Target} {snapshot : Snapshot} (hmemory : target.memory = snapshot.memory)
  {address : UInt64} {size : Nat} (hreadable : (target.memory.bytes? address size).isSome)
include hmemory hreadable

theorem add_lt_of_readable : address.toNat + size < UInt64.size := by
  rw [hmemory] at hreadable
  exact (Region.isSome_read?_iff.1 hreadable).1

theorem isSome_bytes?_part {part : UInt64} {count : Nat} (hstart : address.toNat ≤ part.toNat)
    (hstop : part.toNat + count ≤ address.toNat + size) :
    (target.memory.bytes? part count).isSome := by
  rw [hmemory] at hreadable ⊢
  exact Region.isSome_read?_part hreadable hstart hstop

/-- Each element of an array inside the range can be read. -/
theorem elementReadable_of_readable {elementSize count index : Nat}
    (hsize : size = elementSize * count) (hindex : index < count) :
    target.ElementReadable address elementSize index := by
  have hbelow := add_lt_of_readable hmemory hreadable
  have hend : index * elementSize + elementSize ≤ size := by
    calc
      index * elementSize + elementSize = (index + 1) * elementSize := (Nat.succ_mul _ _).symm
      _ ≤ count * elementSize := Nat.mul_le_mul_right _ hindex
      _ = size := by rw [hsize, Nat.mul_comm]
  have hstart : address.toNat + index * elementSize < UInt64.size := by omega
  have hnat := UInt64.toNat_ofNat_of_lt' hstart
  exact ⟨hstart, isSome_bytes?_part hmemory hreadable (by omega) (by omega)⟩

/-- A field inside the range can be read. -/
theorem isSome_bytes?_field {offset : UInt64} {count : Nat} (hfits : offset.toNat + count ≤ size) :
    (target.memory.bytes? (address + offset) count).isSome := by
  have hbelow := add_lt_of_readable hmemory hreadable
  have hnat : (address + offset).toNat = address.toNat + offset.toNat := by
    rw [UInt64.toNat_add]
    exact Nat.mod_eq_of_lt (Nat.lt_of_le_of_lt (by omega) hbelow)
  exact isSome_bytes?_part hmemory hreadable (by omega) (by omega)

/-- A field that fits is read inside the range. -/
theorem exists_field_of_readable {name : String} {layout : RecordLayout} {field : Field}
    (hlayout : target.types.record? name = some layout) (hsize : layout.size.toNat = size)
    (hfit : target.types.FieldsFit layout) (hfield : field ∈ layout.fields) :
    ∃ found ∈ layout.fields, target.field (.atAddress address (.record name)) field.name =
        .ok (.atAddress (address + found.offset) found.type) ∧
      ∃ count, target.types.byteSize found.type = .ok count ∧
        (target.memory.bytes? (address + found.offset) count).isSome := by
  -- Of several fields of one name, the first one is read.
  obtain ⟨found, hfound⟩ : ∃ found, layout.field? field.name = some found :=
    Option.isSome_iff_exists.1 (List.find?_isSome.2 ⟨field, hfield, beq_self_eq_true _⟩)
  have hmem := List.mem_of_find?_eq_some hfound
  obtain ⟨count, hcount, hle⟩ := hfit found hmem
  exact ⟨found, hmem, Target.field_eq_ok_iff.2 ⟨name, address, layout, found, rfl, hlayout, hfound, rfl⟩,
    count, hcount, isSome_bytes?_field hmemory hreadable (hsize ▸ hle)⟩

end Range

/-! ## Displays -/

variable {target : Target} {snapshot : Snapshot} {type : CType} {address : UInt64} {size : Nat}

/-- No printer is registered for a plain type. -/
theorem displayWithin_plain (h : Plain target.types type) (depth : Nat) (address : UInt64) :
    displayWithin printers target (depth + 1) (.atAddress address type) =
      nativeForm (displayWithin printers target depth) target (.atAddress address type) := by
  have hprinter : printers.find? type = none := by
    rw [find?_printers, if_neg h.ne_node]
  simp only [displayWithin, Value.type_atAddress, hprinter]
  split
  · next pointee =>
    have hpointee : printers.find? pointee = none := by
      rw [find?_printers, if_neg fun hnode ↦ h.ne_nodePointer (congrArg CType.pointer hnode)]
    rw [hpointee]
  · rfl

theorem exists_scalarText {value : Value} {kind : Scalar} {bytes : List UInt8}
    (htype : value.type = .scalar kind) (hread : target.readBytes value = .ok bytes) :
    ∃ text, scalarText target value kind = .ok text := by
  have hbits : target.readBits value = .ok (UInt64.ofNat (Text.ofLittleEndian bytes)) := by
    simp only [Target.readBits, htype, hread, Except.ok_bind]
  obtain ⟨number, hnumber⟩ : ∃ number, target.readInteger value = .ok number := by
    simp only [Target.readInteger, hbits, Except.ok_bind, htype]
    split <;> exact ⟨_, rfl⟩
  simp only [scalarText, hnumber, Except.ok_bind]
  split <;> exact ⟨_, rfl⟩

/-- A value of the type is shown whole wherever its bytes can be read. -/
def ShowsAt (target : Target) (depth : Nat) (type : CType) : Prop :=
  ∀ address size, target.types.valueSize type = .ok size →
    (target.memory.bytes? address size).isSome →
    Shows target (displayWithin printers target depth) (.atAddress address type)

section Parts

variable (hmemory : target.memory = snapshot.memory) {depth : Nat}
  (hplain : PlainThroughout target.types type)
  (hparts : ∀ part, target.types.HasPart type part → ShowsAt target depth part)
  (hsize : target.types.valueSize type = .ok size)
  (hreadable : (target.memory.bytes? address size).isSome)
include hmemory hplain hparts hsize hreadable

/-- An array is shown whole if its elements are. -/
theorem shows_array_of_parts {element : CType} {length : UInt64} (htype : type = .array element length)
    (hchar : element ≠ .scalar .char) :
    Shows target (nativeForm (displayWithin printers target depth) target) (.atAddress address type) := by
  subst htype
  have hpart : target.types.HasPart (.array element length) element := .element element length
  obtain ⟨elementSize, helement⟩ := (hplain element (.single hpart)).exists_size
  obtain ⟨_, hbyteSize, -, hproduct⟩ :=
    Registry.byteSize_array_eq_ok_iff.1 (Registry.byteSize_of_valueSize hsize)
  cases hbyteSize.symm.trans (Registry.byteSize_of_valueSize helement)
  have helements : ∀ index < length.toNat, target.ElementReadable address elementSize index :=
    fun index ↦ elementReadable_of_readable hmemory hreadable hproduct
  apply shows_nativeForm_array hchar hsize
    (Target.readArray_eq_ok_iff.2 ⟨elementSize, helement, helements, rfl⟩)
  intro found hfound
  obtain ⟨index, hindex, rfl⟩ := List.mem_map.1 hfound
  exact hparts element hpart _ elementSize helement (helements index (List.mem_range.1 hindex)).2

/-- A record is shown whole if its members are. -/
theorem shows_record_of_parts {name : String} (htype : type = .record name) :
    Shows target (nativeForm (displayWithin printers target depth) target) (.atAddress address type) := by
  subst htype
  obtain ⟨layout, hlayout, hfit⟩ := (hplain _ .refl).exists_layout name rfl
  obtain ⟨_, hrecord, ⟨⟩⟩ := Except.bind_eq_ok_iff.1 (Registry.byteSize_of_valueSize hsize)
  cases (Registry.record_eq_ok_iff.1 hrecord).symm.trans hlayout
  apply shows_nativeForm_record rfl hlayout
  intro field hfield
  obtain ⟨found, hmem, hmember, count, hcount, hbytes⟩ :=
    exists_field_of_readable hmemory hreadable hlayout rfl hfit hfield
  have hpart : target.types.HasPart (.record name) found.type := .field hlayout hmem
  obtain ⟨foundSize, hfoundSize⟩ := (hplain found.type (.single hpart)).exists_size
  cases hcount.symm.trans (Registry.byteSize_of_valueSize hfoundSize)
  exact ⟨_, hmember, hparts found.type hpart _ count hfoundSize hbytes⟩

end Parts

/-- A value is shown whole if the values are that it is made of. -/
theorem showsAt_succ (hmemory : target.memory = snapshot.memory) {depth : Nat}
    (hplain : PlainThroughout target.types type)
    (hparts : ∀ part, target.types.HasPart type part → ShowsAt target depth part) :
    ShowsAt target (depth + 1) type := by
  intro address size hsize hreadable
  unfold Shows
  rw [displayWithin_plain (hplain type .refl)]
  obtain ⟨bytes, hbytes⟩ := Option.isSome_iff_exists.1 hreadable
  have hread := Target.readBytes_atAddress hsize hbytes
  cases type with
  | void => exact ⟨_, rfl, .void rfl⟩
  | scalar kind =>
    obtain ⟨text, htext⟩ := exists_scalarText rfl hread
    refine ⟨text, ?_, .scalar rfl htext⟩
    simp only [nativeForm, Value.type_atAddress, htext, liftM_ok]
  | pointer pointee =>
    have hbits : target.readBits (.atAddress address (.pointer pointee)) =
        .ok (UInt64.ofNat (Text.ofLittleEndian bytes)) := by
      simp only [Target.readBits, Value.type_atAddress, hread, Except.ok_bind]
    refine ⟨_, ?_, .pointer rfl hbits⟩
    simp only [nativeForm, Value.type_atAddress, hbits, liftM_ok, pure_bind]
  | array element length =>
    by_cases hchar : element = .scalar .char
    · subst hchar
      refine ⟨Text.quoteString bytes, ?_, .string rfl hread⟩
      simp only [nativeForm, Value.type_atAddress, hread, liftM_ok, pure_bind]
    · exact shows_array_of_parts hmemory hplain hparts hsize hreadable rfl hchar
  | record name => exact shows_record_of_parts hmemory hplain hparts hsize hreadable rfl

/-- In a snapshot, a value whose type is plain throughout is displayed if its bytes can be read in one
piece, and no part of it at any depth is marked as a failure. -/
theorem display_shownWhole (hmemory : target.memory = snapshot.memory)
    (hplain : PlainThroughout target.types type)
    (hsize : target.types.valueSize type = .ok size)
    (hreadable : (snapshot.memory.bytes? address size).isSome) :
    ∃ text, display printers target (.atAddress address type) = pure text ∧
      ShownWhole target (.atAddress address type) text := by
  have hknown : ∀ part, ReflTransGen target.types.HasPart type part →
      part ∈ (target.types.knownTypes type).toFinset := fun part hpart ↦
    List.mem_toFinset.2 (Registry.mem_knownTypes_of_hasParts hpart)
  have hending : NoEndlessPath target.types.HasPart type :=
    .of_acyclic _ hknown fun part hpart ↦ (hplain part hpart).not_hasPart_self
  have hstep : ∀ depth type,
      (∀ part, TransGen target.types.HasPart type part →
        PlainThroughout target.types part → ShowsAt target depth part) →
      PlainThroughout target.types type → ShowsAt target (depth + 1) type := by
    intro depth type hparts hplain
    apply showsAt_succ hmemory hplain
    intro part hpart
    exact hparts part (.single hpart) fun inner hinner ↦ hplain inner (hinner.head hpart)
  have hdepth : (target.types.knownTypes type).toFinset.card ≤
      target.types.typeCount type + pointerDepth := by
    calc
      (target.types.knownTypes type).toFinset.card ≤ (target.types.knownTypes type).length :=
        List.toFinset_card_le _
      _ = target.types.typeCount type := Registry.length_knownTypes _ _
      _ ≤ _ := Nat.le_add_right _ _
  rw [← hmemory] at hreadable
  exact NoEndlessPath.descend hstep hending _ hknown hdepth hplain address size hsize hreadable

/-! ## An array of records and one without bytes -/

def tagCellLayout : RecordLayout :=
  ⟨"cell", 16, [⟨"next", 0, .pointer (.record "cell")⟩, ⟨"tag", 8, .array (.scalar .char) 4⟩,
    ⟨"count", 12, .scalar .int32⟩]⟩

/-- A record without bytes. -/
def markLayout : RecordLayout := ⟨"mark", 0, []⟩

/-- Two cells, and three records without bytes at the very end. -/
def gridLayout : RecordLayout :=
  ⟨"grid", 32, [⟨"cells", 0, .array (.record "cell") 2⟩, ⟨"marks", 32, .array (.record "mark") 3⟩]⟩

def gridTypes : Registry :=
  ((Registry.empty.addRecord tagCellLayout).addRecord markLayout).addRecord gridLayout

/-- The memory ends where the grid does. -/
def gridSnapshot : Snapshot :=
  .ofBytes 0x1000 #[16, 16, 0, 0, 0, 0, 0, 0, 97, 98, 0, 0, 7, 0, 0, 0,
    0, 0, 0, 0, 0, 0, 0, 0, 34, 99, 100, 101, 255, 255, 255, 255]

def gridTarget : Target := ⟨gridSnapshot.memory, gridTypes, ∅, ∅⟩

theorem plainThroughout_grid : PlainThroughout gridTypes (.record "grid") := by
  have hcellLayout : gridTypes.record? "cell" = some tagCellLayout := by rfl
  have hmarkLayout : gridTypes.record? "mark" = some markLayout := by rfl
  have hgridLayout : gridTypes.record? "grid" = some gridLayout := by rfl
  have hcell : PlainThroughout gridTypes (.record "cell") := by
    apply plainThroughout_record hcellLayout (by decide +kernel) ⟨16, by decide +kernel⟩ (by decide)
    exact List.forall_mem_cons.2 ⟨plainThroughout_pointer _ (by decide),
      List.forall_mem_cons.2 ⟨plainThroughout_array ⟨4, by decide +kernel⟩ (plainThroughout_scalar _ _),
        List.forall_mem_singleton.2 (plainThroughout_scalar _ _)⟩⟩
  have hmark : PlainThroughout gridTypes (.record "mark") :=
    plainThroughout_record hmarkLayout (by decide +kernel) ⟨0, by decide +kernel⟩ (by decide)
      (List.forall_mem_nil _)
  apply plainThroughout_record hgridLayout (by decide +kernel) ⟨32, by decide +kernel⟩ (by decide)
  exact List.forall_mem_cons.2 ⟨plainThroughout_array ⟨32, by decide +kernel⟩ hcell,
    List.forall_mem_singleton.2 (plainThroughout_array ⟨0, by decide +kernel⟩ hmark)⟩

theorem display_shownWhole_grid :
    gridTarget.memory = gridSnapshot.memory ∧ PlainThroughout gridTarget.types (.record "grid") ∧
    gridTarget.types.valueSize (.record "grid") = .ok 32 ∧
    (gridSnapshot.memory.bytes? 0x1000 32).isSome ∧
    ∃ text, display printers gridTarget (.atAddress 0x1000 (.record "grid")) = pure text ∧
      ShownWhole gridTarget (.atAddress 0x1000 (.record "grid")) text := by
  have hsize : gridTarget.types.valueSize (.record "grid") = .ok 32 := by decide +kernel
  have hreadable : (gridSnapshot.memory.bytes? 0x1000 32).isSome := by decide +kernel
  exact ⟨rfl, plainThroughout_grid, hsize, hreadable,
    display_shownWhole rfl plainThroughout_grid hsize hreadable⟩

example : (display printers gridTarget (.atAddress 0x1000 (.record "grid"))).run = some (.ok
    ("\x7bcells = \x7b\x7bnext = 0x1010, tag = \"ab\", count = 7\x7d, " ++
      "\x7bnext = 0x0, tag = \"\\\"cde\", count = -1\x7d\x7d, " ++
      "marks = \x7b\x7b\x7d, \x7b\x7d, \x7b\x7d\x7d\x7d")) := by
  decide +kernel

end Hierarchy

end MemoryInspector
