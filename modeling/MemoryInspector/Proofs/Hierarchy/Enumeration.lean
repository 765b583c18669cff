import MemoryInspector.Proofs.Hierarchy.Dump
import MemoryInspector.Proofs.Memory.Contents

/-!
# Dumps against displays

A dump shows the slots of a vector one after another and ends at the first that fails, with its
failure. Under any registered printers each element is shown as it is displayed, scalars apart: a
scalar is always shown in its native form, so a printer that is registered for scalars has a part
in their display, but none in a dump.
-/

namespace MemoryInspector.Hierarchy

/-! ## Enumerations -/

/-- The texts of the slots before the first one that has no text, and the ending with what happens
there. -/
structure Enumerates (render : Value → Rendering String) (slots : List Value) (texts : List String)
    (ending : Rendering Unit) : Prop where
  shown : List.Forall₂ (fun slot text ↦ render slot = pure text) (slots.take texts.length) texts
  finished_iff : ending = pure () ↔ texts.length = slots.length
  failed_iff : ∀ e, ending = throw e ↔
    ∃ slot, slots[texts.length]? = some slot ∧ render slot = throw e
  endless_iff : ending = Rendering.outOfDepth ↔
    ∃ slot, slots[texts.length]? = some slot ∧ render slot = Rendering.outOfDepth

namespace Enumerates

variable {render : Value → Rendering String} {slot : Value} {slots : List Value} {text : String}
  {texts : List String} {ending : Rendering Unit}

theorem nil : Enumerates render [] [] (pure ()) where
  shown := .nil
  finished_iff := by simp
  failed_iff e := by simp
  endless_iff := by simp

/-- A slot with a text goes before the texts of the others. -/
theorem cons (hslot : render slot = pure text) (h : Enumerates render slots texts ending) :
    Enumerates render (slot :: slots) (text :: texts) ending where
  shown := .cons hslot h.shown
  finished_iff := by
    rw [h.finished_iff, List.length_cons, List.length_cons, Nat.add_right_cancel_iff]
  failed_iff e := by rw [h.failed_iff, List.length_cons, List.getElem?_cons_succ]
  endless_iff := by rw [h.endless_iff, List.length_cons, List.getElem?_cons_succ]

theorem failed {e : InspectError} (hslot : render slot = throw e) :
    Enumerates render (slot :: slots) [] (throw e) where
  shown := .nil
  finished_iff := by simp
  failed_iff e' := by simp [hslot]
  endless_iff := by simp [hslot]

theorem endless (hslot : render slot = Rendering.outOfDepth) :
    Enumerates render (slot :: slots) [] Rendering.outOfDepth where
  shown := .nil
  finished_iff := by simp
  failed_iff e := by simp [hslot]
  endless_iff := by simp [hslot]

end Enumerates

theorem enumerates_dumpSlots (render : Value → Rendering String) (slots : List Value) :
    Enumerates render slots (dumpSlots render slots).1 (dumpSlots render slots).2 := by
  induction slots with
  | nil => exact .nil
  | cons slot rest ih =>
    unfold dumpSlots
    split
    · next text htext => exact ih.cons htext
    · next e he => exact Enumerates.failed he
    · next hnone => exact Enumerates.endless hnone

/-! ## Elements -/

variable {printers : Printers} {target : Target} {vector : VectorView} {name : String}
  {pointee : CType}

/-- What the display gives for the element that a slot points to. -/
def displaySlot (printers : Printers) (target : Target) (slot : Value) : Rendering String := do
  let element ← target.dereference slot
  display printers target element

theorem dumpSlot_eq_displaySlot
    (hscalar : ∀ kind, pointee = .scalar kind → printers.find? pointee = none) {slot : Value}
    (htype : slot.type = .pointer pointee) :
    (do
      let element ← target.dereference slot
      (ElementKind.ofType target.types pointee).render (display printers target) target element :
        Rendering String) = displaySlot printers target slot := by
  unfold displaySlot
  apply Rendering.liftM_bind_congr
  intro element helement
  obtain ⟨type, address, hpointer, -, rfl⟩ := Target.dereference_eq_ok_iff.1 helement
  rw [htype] at hpointer
  cases hpointer
  exact render_eq_display rfl hscalar

theorem dumpSlots_congr {render render' : Value → Rendering String} {slots : List Value}
    (h : ∀ slot ∈ slots, render slot = render' slot) :
    dumpSlots render slots = dumpSlots render' slots := by
  induction slots with
  | nil => rfl
  | cons slot rest ih =>
    obtain ⟨hslot, hrest⟩ := List.forall_mem_cons.1 h
    unfold dumpSlots
    rw [hslot, ih hrest]

/-- A dump whose slots are read shows them one by one. -/
theorem dump_eq_dumpSlots (hname : elementType target.types name = .ok pointee)
    (hscalar : ∀ kind, pointee = .scalar kind → printers.find? pointee = none) {slots : List Value}
    (hslots : vector.slots target pointee = .ok slots) :
    dump printers target vector name = dumpSlots (displaySlot printers target) slots := by
  simp only [dump, hname, hslots]
  exact dumpSlots_congr fun slot hslot ↦
    dumpSlot_eq_displaySlot hscalar (VectorView.type_of_mem_slots hslots slot hslot)

/-- Under any registered printers, a dump with an accepted element type shows each slot as the
element that it points to is displayed, and ends at the first slot that cannot be followed or
whose element cannot be displayed, with the same failure. For elements that are scalars no printer
may be registered. -/
theorem dump_enumerates_displaySlot (printers : Printers) (target : Target) (vector : VectorView)
    (name : String) (pointee : CType) (hname : elementType target.types name = .ok pointee)
    (hscalar : ∀ kind, pointee = .scalar kind → printers.find? pointee = none) :
    (∀ e, vector.slots target pointee = .error e →
      dump printers target vector name = ([], throw e)) ∧
    ∀ slots, vector.slots target pointee = .ok slots →
      Enumerates (displaySlot printers target) slots (dump printers target vector name).1
        (dump printers target vector name).2 := by
  constructor
  · intro e hslots
    simp only [dump, hname, hslots]
  · intro slots hslots
    rw [dump_eq_dumpSlots hname hscalar hslots]
    exact enumerates_dumpSlots _ _

/-- A vector of one `int`, which is 7. -/
def oneIntTarget : Target where
  memory := (Snapshot.ofBytes 0x1000
    ([0, 0, 1, 0, 0, 0x1030, 0x1038, 7].flatMap wordBytes).toArray).memory
  types := types
  symbols := ∅
  symbolTypes := ∅

def oneIntVector : VectorView := ⟨.atAddress 0x1000 (.record vectorType)⟩

def oneIntSlot : Value := .atAddress 0x1030 (.pointer (.scalar .int32))

theorem slots_oneIntVector : oneIntVector.slots oneIntTarget (.scalar .int32) = .ok [oneIntSlot] := by
  decide +kernel

theorem elementType_int : elementType oneIntTarget.types "int" = .ok (.scalar .int32) := by
  decide +kernel

theorem dump_enumerates_displaySlot_oneInt :
    elementType oneIntTarget.types "int" = .ok (.scalar .int32) ∧
    Hierarchy.printers.find? (.scalar .int32) = none ∧
    Enumerates (displaySlot Hierarchy.printers oneIntTarget) [oneIntSlot]
      (dump Hierarchy.printers oneIntTarget oneIntVector "int").1
      (dump Hierarchy.printers oneIntTarget oneIntVector "int").2 ∧
    displaySlot Hierarchy.printers oneIntTarget oneIntSlot = pure "7" := by
  have hprinter : Hierarchy.printers.find? (.scalar .int32) = none := by
    rw [find?_printers, if_neg (by decide)]
  have hdisplay : (displaySlot Hierarchy.printers oneIntTarget oneIntSlot).run = some (.ok "7") := by
    decide +kernel
  refine ⟨elementType_int, hprinter, ?_, Rendering.run_eq_ok_iff.1 hdisplay⟩
  exact (dump_enumerates_displaySlot Hierarchy.printers oneIntTarget oneIntVector "int" (.scalar .int32)
    elementType_int fun _ _ ↦ hprinter).2 _ slots_oneIntVector

/-- Shows every `int` by the same text. -/
def fixedIntPrinters : Printers := [⟨(· == "int"), fun _ _ _ ↦ pure "number"⟩]

/-- A printer for scalars counts when they are displayed, and not when they are dumped. -/
theorem dump_not_enumerates_displaySlot_oneInt :
    elementType oneIntTarget.types "int" = .ok (.scalar .int32) ∧
    oneIntVector.slots oneIntTarget (.scalar .int32) = .ok [oneIntSlot] ∧
    (dump fixedIntPrinters oneIntTarget oneIntVector "int").1 = ["7"] ∧
    displaySlot fixedIntPrinters oneIntTarget oneIntSlot = pure "number" ∧
    ¬ Enumerates (displaySlot fixedIntPrinters oneIntTarget) [oneIntSlot]
      (dump fixedIntPrinters oneIntTarget oneIntVector "int").1
      (dump fixedIntPrinters oneIntTarget oneIntVector "int").2 := by
  have htexts : (dump fixedIntPrinters oneIntTarget oneIntVector "int").1 = ["7"] := by
    decide +kernel
  have hdisplay : (displaySlot fixedIntPrinters oneIntTarget oneIntSlot).run =
      some (.ok "number") := by
    decide +kernel
  have hnumber : displaySlot fixedIntPrinters oneIntTarget oneIntSlot = pure "number" :=
    Rendering.run_eq_ok_iff.1 hdisplay
  refine ⟨elementType_int, slots_oneIntVector, htexts, hnumber, ?_⟩
  intro henumerates
  have hshown := henumerates.shown
  rw [htexts] at hshown
  have hseven : displaySlot fixedIntPrinters oneIntTarget oneIntSlot = pure "7" :=
    (List.forall₂_cons.1 hshown).1
  rw [hnumber] at hseven
  exact absurd (Except.ok.inj (Option.some.inj hseven)) (by decide)

end MemoryInspector.Hierarchy
