import MemoryInspector.Proofs.Hierarchy.Termination
import MemoryInspector.Proofs.Target.Agreement

/-!
# What the display of a node reads

A node is shown from its id, the two parts of its stamp, the slots in use of both vectors and the
ids of the nodes that the slots point to. Whatever else is in memory, the capacity of a vector, what
lies behind its last slot or the neighbours of a neighbour, has no part in what is shown.
-/

namespace MemoryInspector.Hierarchy

open Rendering Text

/-- The reads that the ids of a vector of nodes take: the length, the data pointer if the length is
not zero, the slots in use, and the ids of the nodes that they point to. -/
inductive VectorReads (memory : Memory) (vector : UInt64) : UInt64 → Nat → Prop
  | length : VectorReads memory vector (vector + 16) 8
  | data {count : UInt64} (hcount : memory.word? (vector + 16) = some count) (hne : count ≠ 0) :
      VectorReads memory vector (vector + 40) 8
  | slot {count data : UInt64} {index : Nat} (hcount : memory.word? (vector + 16) = some count)
      (hdata : memory.word? (vector + 40) = some data) (hindex : index < count.toNat)
      (hbelow : data.toNat + index * 8 < UInt64.size) :
      VectorReads memory vector (UInt64.ofNat (data.toNat + index * 8)) 8
  | id {count data node : UInt64} {index : Nat} (hcount : memory.word? (vector + 16) = some count)
      (hdata : memory.word? (vector + 40) = some data) (hindex : index < count.toNat)
      (hbelow : data.toNat + index * 8 < UInt64.size)
      (hslot : memory.word? (UInt64.ofNat (data.toNat + index * 8)) = some node) :
      VectorReads memory vector node 10

/-- The reads that the text of a node takes. -/
inductive NodeReads (memory : Memory) (node : UInt64) : UInt64 → Nat → Prop
  | id : NodeReads memory node node 10
  | seconds : NodeReads memory node (node + 16) 8
  | nanoseconds : NodeReads memory node (node + 24) 8
  | parents {address : UInt64} {count : Nat} (h : VectorReads memory (node + 32) address count) :
      NodeReads memory node address count
  | children {address : UInt64} {count : Nat} (h : VectorReads memory (node + 80) address count) :
      NodeReads memory node address count

variable {target : Target} {memory : Memory} {address : UInt64} {display display' : Value → Rendering String}

/-! ## Vectors -/

theorem VectorView.slots_withMemory (htypes : target.types = types)
    (h : Memory.AgreeOn (VectorReads target.memory address) target.memory memory) (pointee : CType) :
    (VectorView.mk (.atAddress address (.record vectorType))).slots (target.withMemory memory) pointee =
      (VectorView.mk (.atAddress address (.record vectorType))).slots target pointee := by
  have hlength := Target.readBits_withMemory
    (Target.agreeOn_valueReads_atAddress (target.types.valueSize_scalar .uint64) (h _ _ .length))
  have htypes' : (target.withMemory memory).types = types := htypes
  rw [slots_atAddress htypes', slots_atAddress htypes, hlength]
  apply Except.bind_congr_of_ok
  intro count hcount
  rw [Target.readBits_uint64_eq_ok_iff] at hcount
  split
  · rfl
  · next hne =>
    have hdata := Target.readBits_withMemory
      (Target.agreeOn_valueReads_atAddress (target.types.valueSize_pointer (.pointer .void))
        (h _ _ (.data hcount hne)))
    rw [hdata]
    apply Except.bind_congr_of_ok
    intro data hdata
    rw [Target.readBits_pointer_eq_ok_iff] at hdata
    apply Target.readArray_withMemory
    rintro _ size ⟨hsize, index, hindex, hbelow, rfl⟩
    cases (target.types.valueSize_pointer pointee).symm.trans hsize
    exact h _ _ (.slot hcount hdata hindex hbelow)

/-- Where a slot of a vector lies. -/
theorem VectorView.exists_of_mem_slots (htypes : target.types = types) {pointee : CType}
    {slots : List Value} {slot : Value}
    (hslots : (VectorView.mk (.atAddress address (.record vectorType))).slots target pointee = .ok slots)
    (hslot : slot ∈ slots) :
    ∃ count data index, target.memory.word? (address + 16) = some count ∧
      target.memory.word? (address + 40) = some data ∧ index < count.toNat ∧
      data.toNat + index * 8 < UInt64.size ∧
      slot = .atAddress (UInt64.ofNat (data.toNat + index * 8)) (.pointer pointee) := by
  obtain ⟨count, hcount, hrest⟩ := (slots_atAddress_eq_ok_iff htypes).1 hslots
  rw [Target.readBits_uint64_eq_ok_iff] at hcount
  rcases hrest with ⟨-, rfl⟩ | ⟨-, data, hdata, hreadable, rfl⟩
  · cases hslot
  · rw [Target.readBits_pointer_eq_ok_iff] at hdata
    obtain ⟨index, hindex, rfl⟩ := List.mem_map.1 hslot
    have hlt := List.mem_range.1 hindex
    exact ⟨count, data, index, hcount, hdata, hlt, (hreadable index hlt).1, rfl⟩

/-- The ids of neighbours are shown alike if the ids that the vector reads are. -/
theorem renderIds_withMemory (htypes : target.types = types)
    (h : Memory.AgreeOn (VectorReads target.memory address) target.memory memory)
    (hdisplay : ∀ node, VectorReads target.memory address node 10 →
      display' (.atAddress node idType) = display (.atAddress node idType)) :
    renderIds display' (target.withMemory memory) ⟨.atAddress address (.record vectorType)⟩
        (.pointer (.record nodeType)) =
      renderIds display target ⟨.atAddress address (.record vectorType)⟩ (.pointer (.record nodeType)) := by
  have hkind : ElementKind.ofType target.types (.record nodeType) = .recordWithId nodeType := by
    rw [htypes]
    decide
  simp only [renderIds, CType.pointee?, Target.types_withMemory, hkind, VectorView.slots_withMemory htypes h]
  apply liftM_bind_congr
  intro slots hslots
  congr 1
  apply List.mapM_congr_of_mem
  intro slot hslot
  obtain ⟨count, data, index, hcount, hdata, hindex, hbelow, rfl⟩ :=
    VectorView.exists_of_mem_slots htypes hslots hslot
  have hrecord := Target.dereference_withMemory
    (Target.agreeOn_valueReads_atAddress (target.types.valueSize_pointer (.record nodeType))
      (h _ _ (.slot hcount hdata hindex hbelow)))
  rw [hrecord]
  apply liftM_bind_congr
  intro record hrecord
  obtain ⟨_, node, ⟨⟩, hnode, rfl⟩ := Target.dereference_eq_ok_iff.1 hrecord
  rw [Target.readBits_pointer_eq_ok_iff] at hnode
  have hid : target.field (.atAddress node (.record nodeType)) "id" =
      .ok (.atAddress (node + 0) idType) :=
    field_eq htypes record?_nodeType (by decide)
  rw [UInt64.add_zero] at hid
  rw [Target.field_withMemory, hid, liftM_ok, pure_bind, pure_bind,
    hdisplay node (.id hcount hdata hindex hbelow hnode)]

/-! ## Nodes -/

theorem NodeView.stamp_withMemory (htypes : target.types = types)
    (h : Memory.AgreeOn (NodeReads target.memory address) target.memory memory) :
    (NodeView.mk (.atAddress address (.record nodeType))).stamp (target.withMemory memory) =
      (NodeView.mk (.atAddress address (.record nodeType))).stamp target := by
  have htypes' : (target.withMemory memory).types = types := htypes
  have hseconds := Target.readInteger_withMemory
    (Target.agreeOn_valueReads_atAddress (target.types.valueSize_scalar .int64) (h _ _ .seconds))
  have hnanoseconds := Target.readInteger_withMemory
    (Target.agreeOn_valueReads_atAddress (target.types.valueSize_scalar .int64) (h _ _ .nanoseconds))
  rw [stamp_atAddress htypes', stamp_atAddress htypes, hseconds, hnanoseconds]

theorem NodeView.render_withMemory (htypes : target.types = types) (hne : address ≠ 0)
    (h : Memory.AgreeOn (NodeReads target.memory address) target.memory memory)
    (hdisplay : ∀ node, NodeReads target.memory address node 10 →
      display' (.atAddress node idType) = display (.atAddress node idType)) :
    (NodeView.mk (.atAddress address (.record nodeType))).render display' (target.withMemory memory) =
      (NodeView.mk (.atAddress address (.record nodeType))).render display target := by
  have htypes' : (target.withMemory memory).types = types := htypes
  have hparents := renderIds_withMemory htypes (h.mono fun _ _ ↦ .parents)
    fun node hnode ↦ hdisplay node (.parents hnode)
  have hchildren := renderIds_withMemory htypes (h.mono fun _ _ ↦ .children)
    fun node hnode ↦ hdisplay node (.children hnode)
  rw [render_atAddress htypes' hne, render_atAddress htypes hne, hdisplay address .id,
    stamp_withMemory htypes h, hparents, hchildren]

theorem display_node_withMemory (htypes : target.types = types) (hne : address ≠ 0)
    (h : Memory.AgreeOn (NodeReads target.memory address) target.memory memory) :
    MemoryInspector.display printers (target.withMemory memory) (.atAddress address (.record nodeType)) =
      MemoryInspector.display printers target (.atAddress address (.record nodeType)) := by
  rw [display_node, display_node]
  apply NodeView.render_withMemory htypes hne h
  intro node hnode
  rw [displayWithin_idType, displayWithin_idType, Memory.read_congr (h _ _ hnode)]
  rfl

/-- Two memories that answer the reads of a node alike show it alike, as the same text or with the
same failure. The null node takes no reads at all. -/
theorem display_node_of_agreeOn (target : Target) (memory : Memory) (htypes : target.types = types) :
    (∀ address ≠ 0, Memory.AgreeOn (NodeReads target.memory address) target.memory memory →
      ∃ outcome : Except InspectError String,
        (MemoryInspector.display printers target (.atAddress address (.record nodeType))).run =
          some outcome ∧
        (MemoryInspector.display printers (target.withMemory memory)
          (.atAddress address (.record nodeType))).run = some outcome) ∧
    MemoryInspector.display printers target (.atAddress 0 (.record nodeType)) = pure "NULL" ∧
    MemoryInspector.display printers (target.withMemory memory) (.atAddress 0 (.record nodeType)) =
      pure "NULL" := by
  refine ⟨?_, ?_, ?_⟩
  · intro address hne hagree
    have hpath : NoEndlessPath (DisplayDependsOn target.types) (.record nodeType) := by
      rw [htypes]
      exact noEndlessPath_node
    have hends : MemoryInspector.display printers target (.atAddress address (.record nodeType)) ≠
        outOfDepth := display_ne_outOfDepth hpath
    obtain ⟨outcome, houtcome⟩ := ne_outOfDepth_iff.1 hends
    rw [display_node_withMemory htypes hne hagree]
    exact ⟨outcome, houtcome, houtcome⟩
  · rw [display_node]
    rfl
  · rw [display_node]
    rfl

/-- A node with one child, and with other bytes where neither the node nor the id of its child is
stored. -/
def oneChildMemory (other : UInt64) : Memory :=
  (Snapshot.ofBytes 0x1000
    (([65, 0, 1, 0xFF] ++ [other, other, 0, other, other, other] ++
      [other, other, 1, other, other, 0x1080] ++ [0x1088, 66, 0, other]).flatMap wordBytes).toArray).memory

def oneChildTarget : Target := ⟨oneChildMemory 1, types, ∅, ∅⟩

theorem agreeOn_oneChildMemory :
    Memory.AgreeOn (NodeReads oneChildTarget.memory 0x1000) oneChildTarget.memory (oneChildMemory 2) := by
  have hnone : oneChildTarget.memory.word? (0x1000 + 32 + 16) = some 0 := by decide +kernel
  have hone : oneChildTarget.memory.word? (0x1000 + 80 + 16) = some 1 := by decide +kernel
  have hslots : oneChildTarget.memory.word? (0x1000 + 80 + 40) = some 0x1080 := by decide +kernel
  have hchild : oneChildTarget.memory.word? (UInt64.ofNat ((0x1080 : UInt64).toNat + 0 * 8)) =
      some 0x1088 := by
    decide +kernel
  intro address count hread
  cases hread with
  | id | seconds | nanoseconds => decide +kernel
  | parents hread =>
    cases hread with
    | length => decide +kernel
    | data hcount hne =>
      cases hnone.symm.trans hcount
      exact absurd rfl hne
    | slot hcount _ hindex | id hcount _ hindex =>
      cases hnone.symm.trans hcount
      exact absurd hindex (Nat.not_lt_zero _)
  | children hread =>
    cases hread with
    | length | data => decide +kernel
    | slot hcount hdata hindex =>
      cases hone.symm.trans hcount
      cases hslots.symm.trans hdata
      cases Nat.lt_one_iff.1 hindex
      decide +kernel
    | id hcount hdata hindex _ hslot =>
      cases hone.symm.trans hcount
      cases hslots.symm.trans hdata
      cases Nat.lt_one_iff.1 hindex
      cases hchild.symm.trans hslot
      decide +kernel

theorem display_node_of_agreeOn_oneChild :
    Memory.AgreeOn (NodeReads oneChildTarget.memory 0x1000) oneChildTarget.memory (oneChildMemory 2) ∧
    oneChildTarget.memory.bytes? 0x1020 8 ≠ (oneChildMemory 2).bytes? 0x1020 8 ∧
    ∃ outcome : Except InspectError String,
      (MemoryInspector.display printers oneChildTarget (.atAddress 0x1000 (.record nodeType))).run =
        some outcome ∧
      (MemoryInspector.display printers (oneChildTarget.withMemory (oneChildMemory 2))
        (.atAddress 0x1000 (.record nodeType))).run = some outcome :=
  ⟨agreeOn_oneChildMemory, by decide +kernel,
    (display_node_of_agreeOn oneChildTarget (oneChildMemory 2) rfl).1 0x1000 (by decide)
      agreeOn_oneChildMemory⟩

end MemoryInspector.Hierarchy
