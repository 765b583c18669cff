import MemoryInspector.Proofs.Hierarchy.Graph
import MemoryInspector.Proofs.Hierarchy.Vector
import MemoryInspector.Proofs.Render.Rendering

/-!
# Display of hierarchies

A node of a hierarchy in memory is shown with its id, its stamp and the ids of all its neighbours
in the order of their slots, whatever the shape of the hierarchy is.
-/

namespace MemoryInspector.Hierarchy

open Text

variable {target : Target} {address slots : UInt64} {size : Nat} {display : Value → Rendering String}

/-- Only the node type itself is spelled like it. -/
theorem spelling_eq_nodeType_iff {type : CType} :
    type.spelling = nodeType ↔ type = .record nodeType := by
  have hlast : ∀ (text ending : String), ending.toList.getLast? ≠ nodeType.toList.getLast? →
      ending ≠ "" → text ++ ending ≠ nodeType := by
    intro text ending hending hne h
    apply hending
    rw [← h, String.toList_append, List.getLast?_append]
    cases hlast : ending.toList.getLast? with
    | none => exact absurd (String.toList_eq_nil_iff.1 (List.getLast?_eq_none_iff.1 hlast)) hne
    | some last => rfl
  constructor
  · intro h
    cases type with
    | void => exact absurd h (by decide)
    | scalar kind => exact absurd h (by cases kind <;> decide)
    | pointer pointee =>
      unfold CType.spelling at h
      split at h
      · exact absurd h (hlast _ "*" (by decide) (by decide))
      · exact absurd h (hlast _ " *" (by decide) (by decide))
    | array element length =>
      unfold CType.spelling at h
      exact absurd h (hlast _ "]" (by decide) (by decide))
    | record name => exact congrArg CType.record h
  · rintro rfl
    rfl

/-- A printer that is registered for nodes alone. -/
theorem find?_nodeType (print : Printer) (type : CType) :
    Printers.find? [⟨(· == nodeType), print⟩] type =
      if type = .record nodeType then some print else none := by
  by_cases htype : type.spelling = nodeType
  · rw [if_pos (spelling_eq_nodeType_iff.1 htype)]
    simp [Printers.find?, htype]
  · rw [if_neg (htype ∘ spelling_eq_nodeType_iff.2)]
    simp [Printers.find?, htype]

theorem find?_printers (type : CType) :
    printers.find? type = if type = .record nodeType then some nodePrinter else none :=
  find?_nodeType nodePrinter type

theorem find?_printers_scalar (kind : Scalar) : printers.find? (.scalar kind) = none :=
  (find?_printers _).trans (if_neg nofun)

/-- An id is shown as the string in its bytes. -/
theorem displayWithin_idType (target : Target) (depth : Nat) (address : UInt64) :
    displayWithin printers target (depth + 1) (.atAddress address idType) = (do
      let bytes ← target.memory.read address 10
      pure (quoteString bytes)) := by
  have hprinter : printers.find? idType = none := by
    rw [find?_printers, if_neg (by decide)]
  simp only [displayWithin, Value.type_atAddress, hprinter]
  rfl

theorem displayWithin_id {bytes : List UInt8} (depth : Nat)
    (h : target.memory.bytes? address 10 = some bytes) :
    displayWithin printers target (depth + 1) (.atAddress address idType) =
      pure (quoteString bytes) := by
  rw [displayWithin_idType, Memory.read_eq_ok_iff.2 h, Rendering.liftM_ok, pure_bind]

/-- A node is shown by its members, which are displayed one level less deep. -/
theorem display_node (target : Target) (address : UInt64) :
    MemoryInspector.display printers target (.atAddress address (.record nodeType)) =
      (NodeView.mk (.atAddress address (.record nodeType))).render (displayWithin printers target
        (target.types.typeCount (.record nodeType) + (pointerDepth - 2) + 1)) target := by
  have hprinter : printers.find? (.record nodeType) = some nodePrinter :=
    (find?_printers _).trans (if_pos rfl)
  have hview : NodeView.ofValue target (.atAddress address (.record nodeType)) =
      .ok ⟨.atAddress address (.record nodeType)⟩ := rfl
  have hdepth : target.types.typeCount (.record nodeType) + pointerDepth =
      target.types.typeCount (.record nodeType) + (pointerDepth - 2) + 1 + 1 := rfl
  rw [MemoryInspector.display, Value.type_atAddress, hdepth, displayWithin, Value.type_atAddress,
    hprinter]
  simp only [nodePrinter, hview, Rendering.liftM_ok, pure_bind]

/-! ## Members -/

/-- The stamp of a node is a pair of words. -/
theorem NodeView.stamp_atAddress (htypes : target.types = types) :
    (NodeView.mk (.atAddress address (.record nodeType))).stamp target = (do
      let seconds ← target.readInteger (.atAddress (address + 16) (.scalar .int64))
      let nanoseconds ← target.readInteger (.atAddress (address + 24) (.scalar .int64))
      .ok ⟨seconds, nanoseconds⟩) := by
  have hstamp : target.field (.atAddress address (.record nodeType)) "visit_stamp" =
      .ok (.atAddress (address + 16) (.record "trx")) :=
    field_eq htypes record?_nodeType (by decide)
  have hseconds : target.field (.atAddress (address + 16) (.record "trx")) "tv_sec" =
      .ok (.atAddress (address + 16 + 0) (.scalar .int64)) :=
    field_eq htypes record?_trx (by decide)
  have hnanoseconds : target.field (.atAddress (address + 16) (.record "trx")) "tv_nsec" =
      .ok (.atAddress (address + 16 + 8) (.scalar .int64)) :=
    field_eq htypes record?_trx (by decide)
  rw [UInt64.add_zero] at hseconds
  rw [UInt64.add_assoc] at hnanoseconds
  have hmember : stampMembers.findSome? (fun name ↦
      (target.field (.atAddress address (.record nodeType)) name).toOption) =
        some (.atAddress (address + 16) (.record "trx")) := by
    rw [stampMembers, List.findSome?_cons, hstamp]
    rfl
  have hparts : stampParts.findSome? (stampPart? target (.atAddress (address + 16) (.record "trx"))) =
      some (.atAddress (address + 16) (.scalar .int64), .atAddress (address + 24) (.scalar .int64)) := by
    rw [stampParts, List.findSome?_cons, stampPart?, hseconds, hnanoseconds]
    rfl
  simp only [NodeView.stamp, hmember, hparts]

theorem NodeView.stamp_eq (htypes : target.types = types) {node : GraphNode size}
    {parents children : UInt64} (hnode : NodeAt target.memory address node parents children) :
    (NodeView.mk (.atAddress address (.record nodeType))).stamp target =
      .ok ⟨node.seconds.toInt, node.nanoseconds.toInt⟩ := by
  rw [stamp_atAddress htypes, Target.readInteger_int64 hnode.seconds,
    Target.readInteger_int64 hnode.nanoseconds]
  rfl

/-- The text of a node that is not null, by its members. -/
theorem NodeView.render_atAddress (htypes : target.types = types) (hne : address ≠ 0) :
    (NodeView.mk (.atAddress address (.record nodeType))).render display target = (do
      let id ← display (.atAddress address idType)
      let stamp ← (NodeView.mk (.atAddress address (.record nodeType))).stamp target
      let parents ← renderIds display target ⟨.atAddress (address + 32) (.record vectorType)⟩
        (.pointer (.record nodeType))
      let children ← renderIds display target ⟨.atAddress (address + 80) (.record vectorType)⟩
        (.pointer (.record nodeType))
      pure (s!"\x7bid: {id}, visit_stamp: {stamp.text}, parents: {parents}, " ++
        s!"children: {children}\x7d")) := by
  have hnull : (NodeView.mk (.atAddress address (.record nodeType))).isNull = false := by
    rw [NodeView.isNull, Value.address?_atAddress]
    simpa using hne
  have hid : target.field (.atAddress address (.record nodeType)) "id" =
      .ok (.atAddress (address + 0) idType) :=
    field_eq htypes record?_nodeType (by decide)
  have hparents : target.field (.atAddress address (.record nodeType)) "parents" =
      .ok (.atAddress (address + 32) (.record vectorType)) :=
    field_eq htypes record?_nodeType (by decide)
  have hchildren : target.field (.atAddress address (.record nodeType)) "children" =
      .ok (.atAddress (address + 80) (.record vectorType)) :=
    field_eq htypes record?_nodeType (by decide)
  have hslotType : target.types.resolve s!"{nodeType} *" = .ok (.pointer (.record nodeType)) := by
    rw [htypes, resolve_nodePointer]
  rw [UInt64.add_zero] at hid
  simp only [NodeView.render, hnull, Bool.false_eq_true, if_false, NodeView.id, hid,
    Rendering.liftM_ok, pure_bind, hslotType, NodeView.parents, hparents, NodeView.children, hchildren,
    Except.ok_bind, VectorView.ofValue_record htypes]

/-- The slots of a vector that holds a list of addresses. -/
theorem VectorView.slots_eq (htypes : target.types = types) {neighbours : List UInt64}
    (pointee : CType) (hvector : VectorAt target.memory address neighbours.length slots)
    (hslots : target.memory.Holds slots (neighbours.flatMap wordBytes)) :
    (VectorView.mk (.atAddress address (.record vectorType))).slots target pointee =
      .ok ((List.range neighbours.length).map fun index ↦
        .atAddress (slots + UInt64.ofNat (index * 8)) (.pointer pointee)) := by
  have hbelow := hslots.below
  rw [length_flatMap_wordBytes] at hbelow
  have hcount : (UInt64.ofNat neighbours.length).toNat = neighbours.length :=
    UInt64.toNat_ofNat_of_lt' (by omega)
  have hread : target.readBits (.atAddress (address + 16) (.scalar .uint64)) =
      .ok (UInt64.ofNat neighbours.length) := Target.readBits_scalar rfl hvector.length
  refine (slots_atAddress_eq_ok_iff htypes).2 ⟨_, hread, ?_⟩
  rw [hcount]
  by_cases hempty : UInt64.ofNat neighbours.length = 0
  · have hnil : neighbours.length = 0 := by
      rw [← hcount, hempty]
      rfl
    left
    exact ⟨hempty, by rw [hnil]; rfl⟩
  · right
    have hstart : ∀ index, UInt64.ofNat (slots.toNat + index * 8) = slots + UInt64.ofNat (index * 8) := by
      intro index
      rw [UInt64.ofNat_add, UInt64.ofNat_toNat]
    refine ⟨hempty, slots, Target.readBits_pointer hvector.data, ?_, ?_⟩
    · intro index hindex
      refine ⟨by omega, ?_⟩
      rw [hstart, hslots.bytes?_word hindex]
      rfl
    · simp only [hstart]

/-- The ids of the records that a vector points to. -/
theorem renderIds_eq (htypes : target.types = types) {graph : Graph size}
    {placement : Placement size} {neighbours : List (Fin size)}
    (hdisplay : ∀ index, display (.atAddress (placement.node index) idType) =
      pure (graph.idText index))
    (hvector : VectorAt target.memory address neighbours.length slots)
    (hslots : target.memory.Holds slots (placement.slots neighbours)) :
    renderIds display target ⟨.atAddress address (.record vectorType)⟩
      (.pointer (.record nodeType)) = pure (graph.neighboursText neighbours) := by
  have hslotsOf : (VectorView.mk (.atAddress address (.record vectorType))).slots target
      (.record nodeType) = .ok ((List.range neighbours.length).map fun index ↦
        .atAddress (slots + UInt64.ofNat (index * 8)) (.pointer (.record nodeType))) := by
    have hlength : (neighbours.map placement.node).length = neighbours.length := List.length_map _
    rw [← hlength] at hvector ⊢
    exact VectorView.slots_eq htypes _ hvector hslots
  have hkind : ElementKind.ofType target.types (.record nodeType) = .recordWithId nodeType := by
    rw [htypes]
    decide
  simp only [renderIds, CType.pointee?, hkind, hslotsOf, Rendering.liftM_ok, pure_bind]
  have hids : List.Forall₂ (fun slot text ↦ (do
      let record ← liftM (target.dereference slot)
      let id ← liftM (target.field record "id")
      let text ← display id
      pure s!"{text}, " : Rendering String) = pure text)
      ((List.range neighbours.length).map fun index ↦
        .atAddress (slots + UInt64.ofNat (index * 8)) (.pointer (.record nodeType)))
      (neighbours.map fun index ↦ graph.idText index ++ ", ") := by
    rw [List.forall₂_map_left_iff, List.forall₂_map_right_iff, List.forall₂_iff_get]
    refine ⟨List.length_range, ?_⟩
    intro index hrange hindex
    rw [List.get_eq_getElem, List.getElem_range, List.get_eq_getElem]
    have hword := hslots.bytes?_word ((List.length_map _).symm ▸ hindex)
    rw [List.getElem_map] at hword
    have hrecord := Target.dereference_eq_ok_iff.2
      ⟨.record nodeType, _, rfl, Target.readBits_pointer hword, rfl⟩
    have hid : target.field (.atAddress (placement.node neighbours[index]) (.record nodeType)) "id" =
        .ok (.atAddress (placement.node neighbours[index] + 0) idType) :=
      field_eq htypes record?_nodeType (by decide)
    rw [UInt64.add_zero] at hid
    simp only [hrecord, hid, Rendering.liftM_ok, pure_bind, hdisplay]
    rfl
  rw [List.mapM_eq_pure hids, pure_bind, Graph.neighboursText]
  rw [String.join_append, String.join_cons, String.join_cons, String.join_nil, String.append_empty]

/-- A rendered node, where the display of ids is given. -/
theorem NodeView.render_eq (htypes : target.types = types) {graph : Graph size}
    {placement : Placement size} (hlaid : graph.LaidOut placement target.memory)
    (hdisplay : ∀ index, display (.atAddress (placement.node index) idType) =
      pure (graph.idText index)) {index : Fin size} (hindex : placement.node index ≠ 0) :
    (NodeView.mk (.atAddress (placement.node index) (.record nodeType))).render display target =
      pure (graph.nodeText index) := by
  obtain ⟨image, hholds, himage⟩ := hlaid.node index
  have hnode := himage.nodeAt hholds
  have hparents := renderIds_eq htypes hdisplay hnode.parents (hlaid.parents index)
  have hchildren := renderIds_eq htypes hdisplay hnode.children (hlaid.children index)
  have hcomma : ", children: " = ", " ++ "children: " := rfl
  rw [NodeView.render_atAddress htypes hindex]
  simp only [hdisplay, NodeView.stamp_eq htypes hnode, hparents, hchildren, Rendering.liftM_ok, pure_bind]
  simp only [Graph.nodeText, Graph.stampText, Stamp.text, toString, hcomma, String.append_assoc]

/-- A node that is laid out in memory with its hierarchy is shown with its id, its stamp and its
neighbours. -/
theorem display_laidOut {graph : Graph size} {placement : Placement size}
    (htypes : target.types = types) (hlaid : graph.LaidOut placement target.memory)
    {index : Fin size} (hindex : placement.node index ≠ 0) :
    MemoryInspector.display printers target
      (.atAddress (placement.node index) (.record nodeType)) = pure (graph.nodeText index) := by
  have hids : ∀ depth index, displayWithin printers target (depth + 1)
      (.atAddress (placement.node index) idType) = pure (graph.idText index) := by
    intro depth index
    obtain ⟨image, hholds, himage⟩ := hlaid.node index
    rw [displayWithin_id depth (himage.nodeAt hholds).id, GraphNode.quoteString_paddedId]
    rfl
  rw [display_node]
  exact NodeView.render_eq htypes hlaid (hids _) hindex

/-- Two nodes, each the parent of the other; the first is its own child and has the second one as
a child twice. -/
def pair : Graph 2 := fun index ↦
  if index = 0 then
    { id := [65], seconds := 1, nanoseconds := -16, parents := [1], children := [1, 1, 0],
      length_id_le := by decide }
  else
    { id := [66, 34], seconds := 0, nanoseconds := 0, parents := [0], children := [],
      length_id_le := by decide }

def pairPlacement : Placement 2 where
  node index := 0x1000 + 0x100 * UInt64.ofNat index
  parents index := 0x1080 + 0x100 * UInt64.ofNat index
  children index := 0x10C0 + 0x100 * UInt64.ofNat index

theorem apart_pair : Chunk.Apart (pair.chunks pairPlacement) :=
  Chunk.apart_of_le (by decide +kernel) (by decide +kernel)

theorem display_laidOut_pair :
    pair.LaidOut pairPlacement (Chunk.image (pair.chunks pairPlacement)).memory ∧
    MemoryInspector.display printers
      ⟨(Chunk.image (pair.chunks pairPlacement)).memory, types, ∅, ∅⟩
      (.atAddress 0x1000 (.record nodeType)) =
        pure ("\x7bid: \"A\", visit_stamp: 1-10, parents: \x7b \"B\\\"\", \x7d, " ++
          "children: \x7b \"B\\\"\", \"B\\\"\", \"A\", \x7d\x7d") := by
  have hlaid := Graph.laidOut_image apart_pair
  have htext : pair.nodeText 0 =
      "\x7bid: \"A\", visit_stamp: 1-10, parents: \x7b \"B\\\"\", \x7d, " ++
        "children: \x7b \"B\\\"\", \"B\\\"\", \"A\", \x7d\x7d" := by
    decide
  have hshown : MemoryInspector.display printers
      ⟨(Chunk.image (pair.chunks pairPlacement)).memory, types, ∅, ∅⟩
      (.atAddress (pairPlacement.node 0) (.record nodeType)) = pure (pair.nodeText 0) :=
    display_laidOut rfl hlaid (by decide)
  rw [htext] at hshown
  exact ⟨hlaid, hshown⟩

end MemoryInspector.Hierarchy
