import MemoryInspector.Proofs.Descent
import MemoryInspector.Proofs.Hierarchy.Node
import MemoryInspector.Proofs.Render.Endless
import MemoryInspector.Proofs.Render.Settling
import MemoryInspector.Proofs.Render.TypeCount

/-!
# Displays of hierarchies end

What a display goes into depends on types alone: on the elements of an array, the fields of a
record, the id of a node. Cycles in the data are no obstacle, because of the neighbours of a node
only the ids are shown. So a value is displayed unless its type contains itself by one of these
steps. The neighbours of a node are records of the type that the name of the node type resolves to,
which a type definition of that name may make another one; their ids count, too.
-/

namespace MemoryInspector.Hierarchy

open Relation Rendering

/-! ## Dependencies of types -/

/-- What the display of a value of some type goes into, by the type itself. -/
inductive DependsOn (types : Registry) : CType → CType → Prop
  | element (element : CType) (length : UInt64) : DependsOn types (.array element length) element
  | field {name : String} {layout : RecordLayout} {field : Field} (hname : name ≠ nodeType)
      (hlayout : types.record? name = some layout) (hfield : field ∈ layout.fields) :
      DependsOn types (.record name) field.type
  | id {layout : RecordLayout} {field : Field} (hlayout : types.record? nodeType = some layout)
      (hfield : layout.field? "id" = some field) : DependsOn types (.record nodeType) field.type
  | node : DependsOn types (.pointer (.record nodeType)) (.record nodeType)

/-- A node goes into the ids of its neighbours as well, which are records of the type that the name
of the node type resolves to. -/
inductive DisplayDependsOn (types : Registry) : CType → CType → Prop
  | own {type part : CType} (h : DependsOn types type part) : DisplayDependsOn types type part
  | neighbour {name : String} {layout : RecordLayout} {field : Field}
      (hname : types.resolve nodeType = .ok (.record name))
      (hlayout : types.record? name = some layout) (hfield : layout.field? "id" = some field) :
      DisplayDependsOn types (.record nodeType) field.type

variable {types : Registry} {type part root : CType}

/-- What a known type depends on is known. -/
theorem DisplayDependsOn.mem_knownTypes (h : DisplayDependsOn types type part)
    (htype : type ∈ types.knownTypes root) : part ∈ types.knownTypes root := by
  cases h with
  | own h =>
    cases h with
    | element element length =>
      exact Registry.mem_knownTypes_of_mem_parts htype
        (List.mem_cons_of_mem _ part.mem_parts_self)
    | field hname hlayout hfield => exact Registry.mem_knownTypes_field hlayout hfield
    | id hlayout hfield =>
      exact Registry.mem_knownTypes_field hlayout (List.mem_of_find?_eq_some hfield)
    | node =>
      exact Registry.mem_knownTypes_of_mem_parts htype
        (List.mem_cons_of_mem _ (CType.mem_parts_self _))
  | neighbour hname hlayout hfield =>
    exact Registry.mem_knownTypes_field hlayout (List.mem_of_find?_eq_some hfield)

theorem mem_knownTypes_of_reflTransGen (h : ReflTransGen (DisplayDependsOn types) root part) :
    part ∈ types.knownTypes root := by
  induction h with
  | refl => exact Registry.mem_knownTypes_self
  | tail _ hstep ih => exact hstep.mem_knownTypes ih

/-! ## Names of node types -/

/-- The slots of neighbours are pointers to what the name of the node type resolves to. -/
theorem resolve_nodeType_of_pointer {pointee : CType}
    (h : types.resolve s!"{nodeType} *" = .ok (.pointer pointee)) :
    types.resolve nodeType = .ok pointee := by
  have hpointer : TypeName.read? (s!"{nodeType} *").toList = some ⟨false, nodeType, 1, none⟩ := by
    decide +kernel
  have hname : TypeName.read? nodeType.toList = some ⟨false, nodeType, 0, none⟩ := by
    decide +kernel
  unfold Registry.resolve at h ⊢
  rw [hpointer, Option.bind_some] at h
  rw [hname, Option.bind_some]
  unfold Registry.typeNamed? at h ⊢
  cases hbase : types.baseType? false nodeType with
  | none =>
    rw [hbase] at h
    cases h
  | some base =>
    rw [hbase] at h
    cases h
    rfl

/-! ## One level of display -/

section Level

variable {target : Target} {display display' : Value → Rendering String}

/-- The ids of neighbours settle if those of the records that the slots point to do. -/
theorem settles_renderIds {vector : VectorView} {slotType : CType}
    (hid : ∀ name layout field, slotType = .pointer (.record name) →
      target.types.record? name = some layout → layout.field? "id" = some field →
      SettlesOn display display' field.type) :
    Settles (renderIds display target vector slotType)
      (renderIds display' target vector slotType) := by
  unfold renderIds
  split
  · exact settles_throw _
  · next pointee hpointee =>
    split
    · apply settles_liftM_bind
      intro slots hslots
      apply Settles.bind
      · apply settles_mapM
        intro slot hslot
        apply settles_liftM_bind
        intro record hrecord
        apply settles_liftM_bind
        intro id hmember
        obtain ⟨name, address, layout, field, rfl, hlayout, hfield, rfl⟩ :=
          Target.field_eq_ok_iff.1 hmember
        have hslotType : slotType = .pointer (.record name) := by
          obtain ⟨type, _, htype, -, hvalue⟩ := Target.dereference_eq_ok_iff.1 hrecord
          rw [VectorView.type_of_mem_slots hslots slot hslot] at htype
          cases htype
          cases hvalue
          cases slotType with
          | pointer type =>
            cases hpointee
            rfl
          | void | scalar | array | record => cases hpointee
        exact (hid name layout field hslotType hlayout hfield _ rfl).bind fun text _ ↦
          settles_pure _
      · intro ids _
        exact settles_pure _
    · exact settles_throw _

/-- A node settles if its id and those of its neighbours do. -/
theorem settles_render {node : NodeView} (htype : node.record.type = .record nodeType)
    (hid : ∀ name layout field, name = nodeType ∨ target.types.resolve nodeType = .ok (.record name) →
      target.types.record? name = some layout → layout.field? "id" = some field →
      SettlesOn display display' field.type) :
    Settles (node.render display target) (node.render display' target) := by
  unfold NodeView.render
  split
  · exact settles_pure _
  · apply settles_liftM_bind
    intro id hmember
    obtain ⟨name, address, layout, field, hvalue, hlayout, hfield, rfl⟩ :=
      Target.field_eq_ok_iff.1 hmember
    have hname : name = nodeType := by
      rw [hvalue] at htype
      cases htype
      rfl
    apply (hid name layout field (.inl hname) hlayout hfield _ rfl).bind
    intro idText _
    apply settles_liftM_bind
    intro stamp _
    apply settles_liftM_bind
    intro slotType hslotType
    have hneighbours : ∀ vector : VectorView, Settles (renderIds display target vector slotType)
        (renderIds display' target vector slotType) := by
      intro vector
      apply settles_renderIds
      rintro name layout field rfl
      exact hid name layout field (.inr (resolve_nodeType_of_pointer hslotType))
    apply settles_liftM_bind
    intro parents _
    apply (hneighbours parents).bind
    intro parentsText _
    apply settles_liftM_bind
    intro children _
    apply (hneighbours children).bind
    intro childrenText _
    exact settles_pure _

theorem type_of_nodeOfValue {value : Value} {node : NodeView}
    (h : NodeView.ofValue target value = .ok node) : node.record.type = .record nodeType := by
  unfold NodeView.ofValue at h
  split at h
  all_goals
    obtain ⟨record, -, h⟩ := Except.bind_eq_ok_iff.1 h
    beta_reduce at h
    split at h
    · next htype =>
      split at h
      · cases h
        exact htype
      · cases h
    · cases h

/-- What is displayed at one level settles if the parts that it depends on settle at the next. -/
theorem settles_displayWithin_succ {value : Value} {depth depth' : Nat}
    (h : ∀ part, TransGen (DisplayDependsOn target.types) value.type part →
      SettlesOn (displayWithin printers target depth) (displayWithin printers target depth') part) :
    Settles (displayWithin printers target (depth + 1) value)
      (displayWithin printers target (depth' + 1) value) := by
  have hnode : ∀ {node : NodeView}, node.record.type = .record nodeType →
      ReflTransGen (DisplayDependsOn target.types) value.type (.record nodeType) →
      Settles (node.render (displayWithin printers target depth) target)
        (node.render (displayWithin printers target depth') target) := by
    intro node htype hreach
    apply settles_render htype
    intro name layout field hname hlayout hfield
    apply h
    apply TransGen.tail' hreach
    rcases hname with rfl | hname
    · exact .own (.id hlayout hfield)
    · exact .neighbour hname hlayout hfield
  have hnative : value.type ≠ .record nodeType →
      Settles (nativeForm (displayWithin printers target depth) target value)
        (nativeForm (displayWithin printers target depth') target value) := by
    intro hne
    apply settles_nativeForm
    · intro element length htype
      apply h
      rw [htype]
      exact .single (.own (.element element length))
    · intro name layout htype hlayout field hfield
      apply h
      rw [htype] at hne ⊢
      exact .single (.own (.field (fun hname ↦ hne (hname ▸ rfl)) hlayout hfield))
  unfold displayWithin
  rw [find?_printers]
  split
  · next print hprint =>
    split at hprint
    · next htype =>
      cases hprint
      apply settles_liftM_bind
      intro node hfound
      exact hnode (type_of_nodeOfValue hfound) (htype ▸ .refl)
    · cases hprint
  · next hprint =>
    have hne : value.type ≠ .record nodeType := by
      intro htype
      rw [if_pos htype] at hprint
      cases hprint
    split
    · next pointee htype =>
      rw [find?_printers]
      split
      · next print hprint =>
        split at hprint
        · next hpointee =>
          cases hprint
          apply settles_liftM_bind
          intro pointed _
          apply settles_liftM_bind
          intro node hfound
          rw [hpointee] at htype
          exact hnode (type_of_nodeOfValue hfound) (htype ▸ .single (.own .node))
        · cases hprint
      · exact hnative hne
    · exact hnative hne

end Level

/-! ## All levels -/

/-- Displays of a type without endless dependencies settle from a depth on that counts the types
which can occur. -/
theorem settlesOn_displayWithin (target : Target) {type : CType}
    (h : NoEndlessPath (DisplayDependsOn target.types) type) {depth depth' : Nat}
    (hdepth : target.types.typeCount type ≤ depth) (hle : depth ≤ depth') :
    SettlesOn (displayWithin printers target depth) (displayWithin printers target depth') type := by
  have hstep : ∀ depth type,
      (∀ part, TransGen (DisplayDependsOn target.types) type part →
        ∀ depth' ≥ depth, SettlesOn (displayWithin printers target depth)
          (displayWithin printers target depth') part) →
      ∀ depth' ≥ depth + 1, SettlesOn (displayWithin printers target (depth + 1))
        (displayWithin printers target depth') type := by
    intro depth type hparts depth' hle value htype
    obtain ⟨less, rfl⟩ : ∃ less, depth' = less + 1 := ⟨depth' - 1, by omega⟩
    apply settles_displayWithin_succ
    intro part hpart
    exact hparts part (htype ▸ hpart) less (Nat.le_of_succ_le_succ hle)
  refine NoEndlessPath.descend hstep h (target.types.knownTypes type).toFinset ?_ ?_ depth' hle
  · intro part hpart
    exact List.mem_toFinset.2 (mem_knownTypes_of_reflTransGen hpart)
  · calc
      (target.types.knownTypes type).toFinset.card ≤ (target.types.knownTypes type).length :=
        List.toFinset_card_le _
      _ = target.types.typeCount type := Registry.length_knownTypes _ _
      _ ≤ depth := hdepth

theorem display_ne_outOfDepth {value : Value}
    (h : NoEndlessPath (DisplayDependsOn target.types) value.type) :
    display printers target value ≠ outOfDepth := by
  obtain ⟨depth, hdepth, hdisplay⟩ := exists_display_eq printers target value
  rw [hdisplay]
  exact (settlesOn_displayWithin target h (Nat.le_succ_of_le hdepth) (Nat.le_refl _) value
    rfl).ne_outOfDepth

/-- A value from whose type no endless chain of dependencies starts is displayed or fails, in any
memory, and no larger bound on the depth changes the outcome. -/
theorem display_ends (target : Target) (value : Value)
    (h : NoEndlessPath (DisplayDependsOn target.types) value.type) :
    ∃ outcome : Except InspectError String,
      (display printers target value).run = some outcome ∧
      ∀ depth ≥ target.types.typeCount value.type,
        (displayWithin printers target depth value).run = some outcome := by
  have hleast : ∀ depth ≥ target.types.typeCount value.type,
      Settles (displayWithin printers target (target.types.typeCount value.type) value)
        (displayWithin printers target depth value) := fun depth hdepth ↦
    settlesOn_displayWithin target h (Nat.le_refl _) hdepth value rfl
  cases houtcome : (displayWithin printers target (target.types.typeCount value.type) value).run with
  | none => exact absurd houtcome (hleast _ (Nat.le_refl _)).ne_outOfDepth
  | some outcome =>
    obtain ⟨depth, hdepth, hdisplay⟩ := exists_display_eq printers target value
    refine ⟨outcome, ?_, ?_⟩
    · rw [hdisplay, (hleast _ (Nat.le_succ_of_le hdepth)).eq, houtcome]
    · intro depth hdepth
      rw [(hleast depth hdepth).eq, houtcome]

theorem noEndlessPath_idType (types : Registry) :
    NoEndlessPath (DisplayDependsOn types) idType := by
  unfold idType
  apply NoEndlessPath.of_next
  intro element helement
  cases helement with
  | own helement =>
    cases helement with
    | element =>
      apply NoEndlessPath.of_next
      intro part hpart
      cases hpart with
      | own hpart => cases hpart

/-- With the built-in layout of nodes, a node depends on its id alone by itself. -/
theorem DependsOn.eq_idType (hlayout : types.record? nodeType = some nodeLayout)
    (h : DependsOn types (.record nodeType) part) : part = idType := by
  cases h with
  | field hname => exact absurd rfl hname
  | id hfound hfield =>
    rw [hlayout] at hfound
    cases hfound
    cases hfield
    rfl

theorem noEndlessPath_node : NoEndlessPath (DisplayDependsOn Hierarchy.types) (.record nodeType) := by
  apply NoEndlessPath.of_next
  intro id hid
  have hidType : id = idType := by
    cases hid with
    | own hid => exact hid.eq_idType record?_nodeType
    | neighbour hname hlayout hfield =>
      cases (resolve_nodeType_of_pointer resolve_nodePointer).symm.trans hname
      rw [record?_nodeType] at hlayout
      cases hlayout
      cases hfield
      rfl
  rw [hidType]
  exact noEndlessPath_idType _

theorem noEndlessPath_pointerToNode :
    NoEndlessPath (DisplayDependsOn Hierarchy.types) (.pointer (.record nodeType)) := by
  apply NoEndlessPath.of_next
  intro node hnode
  cases hnode with
  | own hnode =>
    cases hnode with
    | node => exact noEndlessPath_node

/-- The hierarchy of two nodes that are parent and child of each other. -/
def pairTarget : Target := ⟨(Chunk.image (pair.chunks pairPlacement)).memory, Hierarchy.types, ∅, ∅⟩

theorem display_ends_pairTarget :
    NoEndlessPath (DisplayDependsOn pairTarget.types) (.pointer (.record nodeType)) ∧
    ∃ outcome : Except InspectError String,
      (display printers pairTarget (.ofBits 0x1000 (.pointer (.record nodeType)))).run =
        some outcome ∧
      ∀ depth ≥ pairTarget.types.typeCount (.pointer (.record nodeType)),
        (displayWithin printers pairTarget depth
          (.ofBits 0x1000 (.pointer (.record nodeType)))).run = some outcome :=
  ⟨noEndlessPath_pointerToNode,
    display_ends pairTarget (.ofBits 0x1000 (.pointer (.record nodeType)))
      noEndlessPath_pointerToNode⟩

/-! ## Neighbours of another type -/

/-- A record that has itself as its id. -/
def loopLayout : RecordLayout := ⟨"loop", 8, [⟨"id", 0, .record "loop"⟩]⟩

/-- The built-in layouts with a type definition that gives the name of the node type to `loop`, and
a node that is its own parent. -/
def loopTarget : Target where
  memory := (Snapshot.ofBytes 0x1000 ([0x746F6F72, 0, 0, 0, 0, 0, 1, 0, 0, 0x1080, 0, 0, 0, 0, 0, 0,
    0x1000].flatMap wordBytes).toArray).memory
  types := (Hierarchy.types.define nodeType (.record "loop")).addRecord loopLayout
  symbols := ∅
  symbolTypes := ∅

theorem displayWithin_loop (depth : Nat) (address : UInt64) :
    displayWithin printers loopTarget depth (.atAddress address (.record "loop")) = outOfDepth := by
  have hprinter : printers.find? (.record "loop") = none := by
    rw [find?_printers, if_neg (by decide)]
  have hlayout : loopTarget.types.record? "loop" = some loopLayout := by decide
  let own : Field := ⟨"id", 0, .record "loop"⟩
  have hfield : loopLayout.field? own.name = some own := by decide
  exact displayWithin_record_of_own hprinter hlayout hfield rfl depth address

/-- The parents of the node are shown as records of type `loop`. -/
theorem renderIds_loopTarget (depth : Nat) :
    renderIds (displayWithin printers loopTarget depth) loopTarget
      ⟨.atAddress 0x1020 (.record vectorType)⟩ (.pointer (.record "loop")) = outOfDepth := by
  have hkind : ElementKind.ofType loopTarget.types (.record "loop") = .recordWithId "loop" := by
    decide
  have hslots : (VectorView.mk (.atAddress 0x1020 (.record vectorType))).slots loopTarget
      (.record "loop") = .ok [.atAddress 0x1080 (.pointer (.record "loop"))] := by
    decide +kernel
  have hrecord : loopTarget.dereference (.atAddress 0x1080 (.pointer (.record "loop"))) =
      .ok (.atAddress 0x1000 (.record "loop")) := by
    decide +kernel
  have hid : loopTarget.field (.atAddress 0x1000 (.record "loop")) "id" =
      .ok (.atAddress 0x1000 (.record "loop")) := by
    decide +kernel
  simp only [renderIds, CType.pointee?, hkind, hslots, liftM_ok, pure_bind, List.mapM_cons, hrecord,
    hid, displayWithin_loop]
  rfl

/-- By itself the node depends on no more than its id, but its parent is shown as a `loop`, which
never ends. -/
theorem display_endless_loopTarget :
    NoEndlessPath (DependsOn loopTarget.types) (.record nodeType) ∧
    ∀ depth, displayWithin printers loopTarget depth (.atAddress 0x1000 (.record nodeType)) =
      outOfDepth := by
  constructor
  · apply NoEndlessPath.of_next
    intro id hid
    have hlayout : loopTarget.types.record? nodeType = some nodeLayout := by decide
    rw [hid.eq_idType hlayout]
    exact (noEndlessPath_idType _).mono fun _ _ ↦ .own
  · intro depth
    have hprinter : printers.find? (.record nodeType) = some nodePrinter := by
      rw [find?_printers, if_pos rfl]
    have hview : NodeView.ofValue loopTarget (.atAddress 0x1000 (.record nodeType)) =
        .ok ⟨.atAddress 0x1000 (.record nodeType)⟩ := rfl
    have hnull : (NodeView.mk (.atAddress 0x1000 (.record nodeType))).isNull = false := by decide
    have hid : (NodeView.mk (.atAddress 0x1000 (.record nodeType))).id loopTarget =
        .ok (.atAddress 0x1000 idType) := by decide +kernel
    have hstamp : (NodeView.mk (.atAddress 0x1000 (.record nodeType))).stamp loopTarget =
        .ok ⟨0, 0⟩ := by decide +kernel
    have hslotType : loopTarget.types.resolve s!"{nodeType} *" = .ok (.pointer (.record "loop")) := by
      decide +kernel
    have hparents : (NodeView.mk (.atAddress 0x1000 (.record nodeType))).parents loopTarget =
        .ok ⟨.atAddress 0x1020 (.record vectorType)⟩ := by decide +kernel
    have hbytes : loopTarget.memory.bytes? 0x1000 10 = some [114, 111, 111, 116, 0, 0, 0, 0, 0, 0] := by
      decide +kernel
    cases depth with
    | zero => rfl
    | succ depth =>
      simp only [displayWithin, Value.type_atAddress, hprinter, nodePrinter, hview, liftM_ok,
        pure_bind, NodeView.render, hnull, hid, Bool.false_eq_true, if_false]
      cases depth with
      | zero => rfl
      | succ depth =>
        simp only [displayWithin_id depth hbytes, pure_bind, hstamp, hslotType, hparents, liftM_ok,
          renderIds_loopTarget]
        rfl

end MemoryInspector.Hierarchy
