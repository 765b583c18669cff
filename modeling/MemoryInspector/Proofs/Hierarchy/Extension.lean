import MemoryInspector.Proofs.Expression.Extension
import MemoryInspector.Proofs.Hierarchy.Node
import MemoryInspector.Proofs.Render.Extension

/-!
# Results in an extended memory

What an expression, an array, the slots of a vector or the ids of its records are in one memory, they
are in every memory that extends it, whatever the types and the symbols are.
-/

namespace MemoryInspector.Hierarchy

open Rendering

variable {target : Target} {memory : Memory}

theorem VectorView.slots_extended (h : target.memory.ExtendedBy memory) {vector : VectorView}
    {pointee : CType} {slots : List Value} (hslots : vector.slots target pointee = .ok slots) :
    vector.slots (target.withMemory memory) pointee = .ok slots := by
  have hword : ∀ name bits, (do target.readBits (← target.field vector.record name)) = .ok bits →
      (do (target.withMemory memory).readBits (← (target.withMemory memory).field vector.record name)) =
        .ok bits := by
    intro name bits hbits
    obtain ⟨member, hmember, hread⟩ := Except.bind_eq_ok_iff.1 hbits
    exact Except.bind_eq_ok_iff.2 ⟨member, hmember, Target.readBits_extended h hread⟩
  obtain ⟨count, hcount, hrest⟩ := slots_eq_ok_iff.1 hslots
  refine slots_eq_ok_iff.2 ⟨count, hword _ _ hcount, hrest.imp_right ?_⟩
  rintro ⟨hne, data, hdata, hreadable, rfl⟩
  exact ⟨hne, data, hword _ _ hdata, fun index hindex ↦ (hreadable index hindex).extended h, rfl⟩

/-- The records that slots of this type point to have ids that are scalars or strings. -/
def HasTextIds (types : Registry) (slotType : CType) : Prop :=
  ∀ name layout field, slotType = .pointer (.record name) → types.record? name = some layout →
    layout.field? "id" = some field → field.type.IsText

/-- A printer that is registered for the type of these ids shows in the other memory what it shows. -/
def KeepIds (printers : Printers) (target : Target) (memory : Memory) (slotType : CType) : Prop :=
  ∀ name layout field, slotType = .pointer (.record name) → target.types.record? name = some layout →
    layout.field? "id" = some field → printers.KeepAt target memory field.type

/-- No printer of the hierarchy is meant for ids. -/
theorem keepIds_printers {slotType : CType} (hids : HasTextIds target.types slotType) :
    KeepIds printers target memory slotType := by
  intro name layout field hslot hlayout hfield print hfind
  rw [find?_printers] at hfind
  split at hfind
  · next hnode =>
    rcases hids name layout field hslot hlayout hfield with ⟨kind, htype⟩ | ⟨length, htype⟩
    · cases hnode.symm.trans htype
    · cases hnode.symm.trans htype
  · cases hfind

theorem kept_renderIds {printers : Printers} {vector : VectorView} {slotType : CType}
    (h : target.memory.ExtendedBy memory)
    (hids : HasTextIds target.types slotType) (hprinters : KeepIds printers target memory slotType) :
    Kept (renderIds (display printers target) target vector slotType)
      (renderIds (display printers (target.withMemory memory)) (target.withMemory memory) vector
        slotType) := by
  unfold renderIds
  split
  · exact kept_refl _
  · next pointee hpointee =>
    obtain rfl : slotType = .pointer pointee := by
      cases slotType <;> cases hpointee
      rfl
    rw [Target.types_withMemory]
    split
    · refine kept_liftM_bind (fun _ ↦ VectorView.slots_extended h) ?_
      intro slots hslots
      refine (kept_mapM ?_).bind fun _ _ ↦ kept_refl _
      intro slot hslot
      have hslotType := VectorView.type_of_mem_slots hslots slot hslot
      refine kept_liftM_bind (fun _ ↦ Target.dereference_extended h) ?_
      intro record hrecord
      refine kept_liftM_bind (fun _ ↦ id) ?_
      intro idValue hid
      obtain ⟨_, address, hpointer, -, rfl⟩ := Target.dereference_eq_ok_iff.1 hrecord
      obtain ⟨name, _, layout, field, ⟨⟩, hlayout, hfield, rfl⟩ := Target.field_eq_ok_iff.1 hid
      have hrecordType : CType.pointer pointee = .pointer (.record name) := hslotType.symm.trans hpointer
      have htext := hids name layout field hrecordType hlayout hfield
      have hprinter := hprinters name layout field hrecordType hlayout hfield
      exact (kept_display h htext hprinter).bind fun _ _ ↦ kept_refl _
    · exact kept_refl _

/-- A vector with one slot, the slot, and a node id. -/
def idSnapshot : Snapshot :=
  .ofBytes 0x1000 (([0, 1, 1, 0, 0, 0x1030, 0x1038, 65, 0] : List UInt64).flatMap wordBytes).toArray

def idTarget : Target := ⟨idSnapshot.memory, types, ∅, ∅⟩

end MemoryInspector.Hierarchy
