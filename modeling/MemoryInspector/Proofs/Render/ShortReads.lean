import MemoryInspector.Proofs.Render.Rendering
import MemoryInspector.Proofs.Target.ShortReads

/-!
# Display and short reads

Values of all types are displayed with short reads alone if the registered printers make do with them:
a value that is too long is refused before it is read, and its parts are read one by one.
-/

namespace MemoryInspector

/-- The printer shows values alike in any two memories that agree on short reads, if the values inside
are displayed alike. -/
def Printer.ReadsShort (print : Printer) : Prop :=
  ∀ (target : Target) (memory : Memory), target.memory.AgreeOnShort memory →
    ∀ display, print display (target.withMemory memory) = print display target

/-- All registered printers make do with short reads. -/
def Printers.ReadShort (printers : Printers) : Prop :=
  ∀ registration ∈ printers, Printer.ReadsShort registration.print

variable {target : Target} {memory : Memory} {printers : Printers}

theorem Printers.ReadShort.of_find? (hprinters : printers.ReadShort) {type : CType} {print : Printer}
    (hfind : printers.find? type = some print) : print.ReadsShort := by
  obtain ⟨registration, hregistration, rfl⟩ := exists_of_find? hfind
  exact hprinters registration hregistration

section

variable (h : target.memory.AgreeOnShort memory)
include h

theorem scalarText_of_agreeOnShort : scalarText (target.withMemory memory) = scalarText target := by
  funext value kind
  unfold scalarText
  rw [Target.readInteger_of_agreeOnShort h]

theorem nativeForm_of_agreeOnShort (display : Value → Rendering String) :
    nativeForm display (target.withMemory memory) = nativeForm display target := by
  funext value
  unfold nativeForm
  simp only [scalarText_of_agreeOnShort h, Target.readBits_of_agreeOnShort h,
    Target.readBytes_of_agreeOnShort h, Target.readArray_of_agreeOnShort h, Target.types_withMemory,
    Target.field_withMemory]

theorem displayWithin_of_agreeOnShort (hprinters : printers.ReadShort) (depth : Nat) :
    displayWithin printers (target.withMemory memory) depth = displayWithin printers target depth := by
  induction depth with
  | zero => rfl
  | succ depth ih =>
    funext value
    rw [displayWithin, displayWithin, ih, nativeForm_of_agreeOnShort h,
      Target.dereference_of_agreeOnShort h]
    cases hfind : printers.find? value.type with
    | some print => exact congrFun (hprinters.of_find? hfind target memory h _) value
    | none =>
      dsimp only
      cases value.type with
      | pointer pointee =>
        dsimp only
        cases hpointee : printers.find? pointee with
        | some print =>
          dsimp only
          rw [hprinters.of_find? hpointee target memory h]
        | none => rfl
      | void | scalar | array | record => rfl

theorem display_of_agreeOnShort (hprinters : printers.ReadShort) :
    display printers (target.withMemory memory) = display printers target :=
  funext fun value ↦ congrFun (displayWithin_of_agreeOnShort h hprinters _) value

end

end MemoryInspector
