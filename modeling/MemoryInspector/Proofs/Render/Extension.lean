import MemoryInspector.Proofs.Render.Rendering
import MemoryInspector.Proofs.Target.Extension

/-!
# Display in an extended memory

A scalar or a string that is shown in one memory is shown alike in a memory that extends it. This is
not so of values with parts, since a part that cannot be read is marked in place.
-/

namespace MemoryInspector

namespace Rendering

variable {α β : Type} {part other : Rendering α}

/-- What the first rendering gives, if it succeeds, the other one gives as well. -/
def Kept (part other : Rendering α) : Prop := ∀ a, part = pure a → other = pure a

theorem kept_refl (part : Rendering α) : Kept part part := fun _ h ↦ h

theorem kept_liftM {x y : Except InspectError α} (h : ∀ a, x = .ok a → y = .ok a) :
    Kept (liftM x) (liftM y) := by
  intro a ha
  cases x with
  | ok b =>
    rw [h b rfl]
    exact ha
  | error e => cases ha

theorem Kept.bind {f g : α → Rendering β} (h : Kept part other)
    (hnext : ∀ a, part = pure a → Kept (f a) (g a)) : Kept (part >>= f) (other >>= g) := by
  intro b hb
  obtain ⟨a, ha, hf⟩ := bind_eq_pure_iff.1 hb
  exact bind_eq_pure_iff.2 ⟨a, h a ha, hnext a ha b hf⟩

theorem kept_liftM_bind {x y : Except InspectError α} {f g : α → Rendering β}
    (h : ∀ a, x = .ok a → y = .ok a) (hnext : ∀ a, x = .ok a → Kept (f a) (g a)) :
    Kept (liftM x >>= f) (liftM y >>= g) := by
  intro b hb
  obtain ⟨a, ha, hf⟩ := liftM_bind_eq_pure_iff.1 hb
  exact liftM_bind_eq_pure_iff.2 ⟨a, h a ha, hnext a ha b hf⟩

theorem kept_mapM {elements : List α} {f g : α → Rendering β}
    (h : ∀ element ∈ elements, Kept (f element) (g element)) :
    Kept (elements.mapM f) (elements.mapM g) := by
  induction elements with
  | nil =>
    rw [List.mapM_nil, List.mapM_nil]
    exact kept_refl _
  | cons element rest ih =>
    obtain ⟨hfirst, hrest⟩ := List.forall_mem_cons.1 h
    rw [List.mapM_cons, List.mapM_cons]
    exact hfirst.bind fun _ _ ↦ (ih hrest).bind fun _ _ ↦ kept_refl _

end Rendering

open Rendering

variable {target : Target} {memory : Memory} {value : Value} {printers : Printers}

theorem kept_scalarText (h : target.memory.ExtendedBy memory) (kind : Scalar) {text : String}
    (htext : scalarText target value kind = .ok text) :
    scalarText (target.withMemory memory) value kind = .ok text := by
  obtain ⟨number, hnumber, hrest⟩ := Except.bind_eq_ok_iff.1 htext
  exact Except.bind_eq_ok_iff.2 ⟨number, Target.readInteger_extended h hnumber, hrest⟩

/-- The printer that is registered for a type, if any, shows in the other memory what it shows. -/
def Printers.KeepAt (printers : Printers) (target : Target) (memory : Memory) (type : CType) : Prop :=
  ∀ print, printers.find? type = some print → ∀ depth value, value.type = type →
    Kept (print (displayWithin printers target depth) target value)
      (print (displayWithin printers (target.withMemory memory) depth) (target.withMemory memory) value)

/-- Scalars and strings. -/
def CType.IsText (type : CType) : Prop :=
  (∃ kind, type = .scalar kind) ∨ ∃ length, type = .array (.scalar .char) length

theorem kept_display (h : target.memory.ExtendedBy memory) (htype : value.type.IsText)
    (hprinter : printers.KeepAt target memory value.type) :
    Kept (display printers target value) (display printers (target.withMemory memory) value) := by
  obtain ⟨depth, hdepth⟩ : ∃ depth, target.types.typeCount value.type + pointerDepth = depth + 1 :=
    ⟨_, rfl⟩
  rw [display, display, Target.types_withMemory, hdepth, displayWithin, displayWithin]
  cases hfind : printers.find? value.type with
  | some print => exact hprinter print hfind depth value rfl
  | none =>
    rcases htype with ⟨kind, hkind⟩ | ⟨length, hlength⟩
    · rw [hkind]
      dsimp only
      rw [nativeForm, nativeForm, hkind]
      exact kept_liftM fun _ ↦ kept_scalarText h kind
    · rw [hlength]
      dsimp only
      rw [nativeForm, nativeForm, hlength]
      exact kept_liftM_bind (fun _ ↦ Target.readBytes_extended h) fun _ _ ↦ kept_refl _

end MemoryInspector
