import MemoryInspector.Hierarchy.Node
import MemoryInspector.Proofs.Render.ShortReads

/-!
# Hierarchies and short reads

The members of vectors and nodes are words, and the slots of a vector are read one by one, however many
there are. So vectors and nodes are looked into, shown and dumped with short reads alone, whatever
layouts are registered for them.
-/

namespace MemoryInspector.Hierarchy

variable {target : Target} {memory : Memory}

section

variable (h : target.memory.AgreeOnShort memory)
include h

/-! ## Vectors -/

namespace VectorView

theorem ofValue_of_agreeOnShort : ofValue (target.withMemory memory) = ofValue target := by
  funext value
  unfold ofValue
  rw [Target.dereference_of_agreeOnShort h, Target.types_withMemory]

theorem data_of_agreeOnShort (vector : VectorView) :
    vector.data (target.withMemory memory) = vector.data target := by
  rw [data, Target.readBits_of_agreeOnShort h, Target.field_withMemory, data]

theorem length_of_agreeOnShort (vector : VectorView) :
    vector.length (target.withMemory memory) = vector.length target := by
  rw [length, Target.readBits_of_agreeOnShort h, Target.field_withMemory, length]

theorem slots_of_agreeOnShort (vector : VectorView) :
    vector.slots (target.withMemory memory) = vector.slots target := by
  funext pointee
  rw [slots, length_of_agreeOnShort h, data_of_agreeOnShort h, Target.readArray_of_agreeOnShort h, slots]

end VectorView

theorem renderIds_of_agreeOnShort (display : Value → Rendering String) :
    renderIds display (target.withMemory memory) = renderIds display target := by
  funext vector slotType
  unfold renderIds
  simp only [VectorView.slots_of_agreeOnShort h, Target.dereference_of_agreeOnShort h,
    Target.field_withMemory, Target.types_withMemory]

/-! ## Nodes -/

namespace NodeView

theorem ofValue_of_agreeOnShort : ofValue (target.withMemory memory) = ofValue target := by
  funext value
  unfold ofValue
  rw [Target.dereference_of_agreeOnShort h]

theorem stamp_of_agreeOnShort (node : NodeView) :
    node.stamp (target.withMemory memory) = node.stamp target := by
  have hpart : stampPart? (target.withMemory memory) = stampPart? target := rfl
  unfold stamp
  rw [Target.readInteger_of_agreeOnShort h, hpart]
  rfl

theorem parents_of_agreeOnShort (node : NodeView) :
    node.parents (target.withMemory memory) = node.parents target := by
  rw [parents, VectorView.ofValue_of_agreeOnShort h, Target.field_withMemory, parents]

theorem children_of_agreeOnShort (node : NodeView) :
    node.children (target.withMemory memory) = node.children target := by
  rw [children, VectorView.ofValue_of_agreeOnShort h, Target.field_withMemory, children]

theorem render_of_agreeOnShort (display : Value → Rendering String) :
    render display (target.withMemory memory) = render display target := by
  funext node
  have hid : node.id (target.withMemory memory) = node.id target := rfl
  rw [render, render, hid, stamp_of_agreeOnShort h, parents_of_agreeOnShort h, children_of_agreeOnShort h,
    renderIds_of_agreeOnShort h, Target.types_withMemory]

end NodeView

end

theorem readsShort_nodePrinter : Printer.ReadsShort nodePrinter := by
  intro target memory h display
  funext value
  rw [nodePrinter, NodeView.ofValue_of_agreeOnShort h, NodeView.render_of_agreeOnShort h, nodePrinter]

/-- The printer of nodes may be registered for any types. -/
theorem readShort_of_nodePrinter {printers : Printers}
    (hprinters : ∀ registration ∈ printers, registration.print = nodePrinter) : printers.ReadShort := by
  intro registration hregistration
  rw [hprinters registration hregistration]
  exact readsShort_nodePrinter

/-! ## Dumps -/

theorem dump_of_agreeOnShort {printers : Printers} (h : target.memory.AgreeOnShort memory)
    (hprinters : printers.ReadShort) :
    dump printers (target.withMemory memory) = dump printers target := by
  have hkind : ∀ kind : ElementKind,
      kind.render (display printers (target.withMemory memory)) (target.withMemory memory) =
        kind.render (display printers target) target := by
    intro kind
    funext element
    unfold ElementKind.render
    rw [scalarText_of_agreeOnShort h, display_of_agreeOnShort h hprinters]
  funext vector typeName
  unfold dump
  simp only [VectorView.slots_of_agreeOnShort h, Target.dereference_of_agreeOnShort h,
    Target.types_withMemory, hkind]

end MemoryInspector.Hierarchy
