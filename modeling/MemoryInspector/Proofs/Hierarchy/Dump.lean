import MemoryInspector.Proofs.Hierarchy.Node

/-!
# Dumps of vectors

The elements of a dump that succeeds, and their texts. Under the printers of the hierarchy an
element is dumped as it is displayed.
-/

namespace MemoryInspector.Hierarchy

variable {target : Target} {vector : VectorView} {name : String} {texts : List String}
  {ending : Rendering Unit} {render : Value → Rendering String} {slots : List Value}

theorem elementType_eq_ok_iff {types : Registry} {type : CType} :
    elementType types name = .ok type ↔
      types.resolve name = .ok type ∧ ∃ size, types.valueSize type = .ok size := by
  have hboth : (do
      let type ← types.resolve name
      let _ ← types.valueSize type
      pure type : Except InspectError CType) = .ok type ↔
        types.resolve name = .ok type ∧ ∃ size, types.valueSize type = .ok size := by
    simp only [Except.bind_eq_ok_iff]
    constructor
    · intro h
      obtain ⟨found, hresolve, size, hsize, hfound⟩ := h
      cases hfound
      exact ⟨hresolve, size, hsize⟩
    · intro h
      obtain ⟨hresolve, size, hsize⟩ := h
      exact ⟨type, hresolve, size, hsize, rfl⟩
  rw [← hboth, elementType]
  split
  · next found hfound => rw [hfound]
  · next e he =>
    rw [he]
    simp only [reduceCtorEq]

/-- A dump that reaches the end has rendered every slot. -/
theorem dumpSlots_of_ok (h : dumpSlots render slots = (texts, ending))
    (hending : ending.run = some (.ok ())) :
    List.Forall₂ (fun slot text ↦ render slot = pure text) slots texts := by
  induction slots generalizing texts with
  | nil =>
    cases h
    exact .nil
  | cons slot rest ih =>
    rw [dumpSlots] at h
    split at h
    · next text htext =>
      cases h
      exact .cons htext (ih rfl)
    · cases h
      cases hending
    · cases h
      cases hending

/-- What a dump that reaches the end has read and rendered. -/
theorem dump_of_ok {printers : Printers} (h : dump printers target vector name = (texts, ending))
    (hending : ending.run = some (.ok ())) :
    ∃ pointee slots, elementType target.types name = .ok pointee ∧
      vector.slots target pointee = .ok slots ∧
      List.Forall₂ (fun slot text ↦ (do
        let element ← liftM (target.dereference slot)
        (ElementKind.ofType target.types pointee).render (display printers target) target element :
          Rendering String) = pure text) slots texts := by
  unfold dump at h
  split at h
  · cases h
    cases hending
  · next pointee hpointee =>
    split at h
    · cases h
      cases hending
    · next slots hslots => exact ⟨pointee, slots, hpointee, hslots, dumpSlots_of_ok h hending⟩

/-! ## Elements -/

variable {registered : Printers} {pointee : CType}

/-- Without a printer of its own, a scalar is displayed in its native form. -/
theorem display_scalar {value : Value} {kind : Scalar} (htype : value.type = .scalar kind)
    (hprinter : registered.find? (.scalar kind) = none) :
    display registered target value = liftM (scalarText target value kind) := by
  obtain ⟨depth, -, hdisplay⟩ := exists_display_eq registered target value
  rw [hdisplay, displayWithin, htype, hprinter]
  simp only [nativeForm, htype]

/-- The kind of an element shows it as it is displayed, unless it is a scalar for which a printer
is registered. -/
theorem render_eq_display {element : Value} (htype : element.type = pointee)
    (hscalar : ∀ kind, pointee = .scalar kind → registered.find? pointee = none) :
    (ElementKind.ofType target.types pointee).render (display registered target) target element =
      display registered target element := by
  cases pointee with
  | scalar kind => exact (display_scalar htype (hscalar kind rfl)).symm
  | record name =>
    rw [ElementKind.ofType]
    split <;> rw [ElementKind.render]
  | void | pointer | array => rw [ElementKind.ofType, ElementKind.render] <;> exact nofun

/-- Under the printers of the hierarchy an element is dumped as it is displayed. -/
theorem render_ofType {element : Value} (htype : element.type = pointee) :
    (ElementKind.ofType target.types pointee).render (display printers target) target element =
      display printers target element := by
  apply render_eq_display htype
  rintro kind rfl
  exact find?_printers_scalar kind

end MemoryInspector.Hierarchy
