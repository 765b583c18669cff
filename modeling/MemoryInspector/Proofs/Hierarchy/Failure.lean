import MemoryInspector.Hierarchy.Node
import MemoryInspector.Proofs.Render.Failure

/-!
# Failures of displayed hierarchies

Vectors and nodes fail only where an inspection of the target does.
-/

namespace MemoryInspector.Hierarchy

open Rendering

variable (target : Target)

/-! ## Vectors -/

namespace VectorView

variable (vector : VectorView)

theorem inspects_length : Inspects (vector.length target) :=
  (target.inspects_field _ _).bind fun member ↦ target.inspects_readBits member

theorem inspects_data : Inspects (vector.data target) :=
  (target.inspects_field _ _).bind fun member ↦ target.inspects_readBits member

theorem inspects_slots (pointee : CType) : Inspects (vector.slots target pointee) := by
  apply (vector.inspects_length target).bind
  intro count
  split
  · exact .ok _
  · exact (vector.inspects_data target).bind fun address ↦ target.inspects_readArray _ _ _

theorem inspects_ofValue (value : Value) : Inspects (ofValue target value) := by
  unfold ofValue
  split
  all_goals apply Inspects.bind
  · exact target.inspects_dereference value
  on_goal 2 => exact .ok _
  all_goals
    intro value
    beta_reduce
    split
    · apply (target.types.inspects_record _).bind
      intro layout
      split
      · exact .error trivial
      · exact .ok _
    · exact .error trivial

end VectorView

variable {target} {display : Value → Rendering String}

theorem inspects_renderIds (hdisplay : ∀ value, (display value).Inspects) (vector : VectorView)
    (slotType : CType) : (renderIds display target vector slotType).Inspects := by
  unfold renderIds
  split
  · exact .throw trivial
  · split
    · apply (Inspects.liftM (vector.inspects_slots target _)).bind
      intro slots
      refine (Inspects.mapM fun slot _ ↦ ?_).bind fun ids ↦ .pure _
      apply (Inspects.liftM (target.inspects_dereference slot)).bind
      intro record
      apply (Inspects.liftM (target.inspects_field record _)).bind
      intro id
      exact (hdisplay id).bind fun text ↦ .pure _
    · exact .throw trivial

/-! ## Nodes -/

namespace NodeView

theorem inspects_ofValue (target : Target) (value : Value) : Inspects (ofValue target value) := by
  unfold ofValue
  split
  all_goals apply Inspects.bind
  · exact target.inspects_dereference value
  on_goal 2 => exact .ok _
  all_goals
    intro value
    beta_reduce
    split
    · split
      · exact .ok _
      · exact .error trivial
    · exact .error trivial

theorem inspects_stamp (target : Target) (node : NodeView) : Inspects (node.stamp target) := by
  unfold stamp
  split
  · exact .error trivial
  · split
    · exact .error trivial
    · next first second _ =>
      exact (target.inspects_readInteger first).bind fun seconds ↦
        (target.inspects_readInteger second).bind fun nanoseconds ↦ .ok _

theorem inspects_render (hdisplay : ∀ value, (display value).Inspects) (node : NodeView) :
    (node.render display target).Inspects := by
  have hneighbours : ∀ name, MemoryInspector.Inspects
      (target.field node.record name >>= VectorView.ofValue target) := fun name ↦
    (target.inspects_field _ _).bind fun member ↦ VectorView.inspects_ofValue target member
  unfold render
  split
  · exact .pure _
  · apply (Inspects.liftM (target.inspects_field node.record "id")).bind
    intro id
    apply (hdisplay id).bind
    intro idText
    apply (Inspects.liftM (node.inspects_stamp target)).bind
    intro stamp
    apply (Inspects.liftM (target.types.inspects_resolve _)).bind
    intro slotType
    apply (Inspects.liftM (hneighbours "parents")).bind
    intro vector
    apply (inspects_renderIds hdisplay vector slotType).bind
    intro parents
    apply (Inspects.liftM (hneighbours "children")).bind
    intro vector
    apply (inspects_renderIds hdisplay vector slotType).bind
    intro children
    exact .pure _

end NodeView

theorem printers_inspect : printers.Inspect := by
  intro registration hregistration display target hdisplay value
  cases List.mem_singleton.1 hregistration
  exact (Inspects.liftM (NodeView.inspects_ofValue target value)).bind fun node ↦
    node.inspects_render hdisplay

/-- No argument of a command is to blame when a value cannot be displayed. -/
theorem inspects_display (target : Target) (value : Value) :
    (MemoryInspector.display printers target value).Inspects :=
  inspects_displayWithin printers_inspect _ value

end MemoryInspector.Hierarchy
