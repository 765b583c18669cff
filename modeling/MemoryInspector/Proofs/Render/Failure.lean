import MemoryInspector.Proofs.Render.Rendering
import MemoryInspector.Proofs.Target.Failure

/-!
# Failures of a display

A display fails only where an inspection does, as long as all printers do so.
-/

namespace MemoryInspector

namespace Rendering

variable {α β : Type}

/-- If there is a failure, it is one of the inspection. -/
def Inspects (rendering : Rendering α) : Prop := ∀ e, rendering = throw e → e.IsInspection

namespace Inspects

theorem pure (a : α) : Inspects (Pure.pure a) := fun e h ↦ absurd h (pure_ne_throw a e)

theorem throw {e : InspectError} (h : e.IsInspection) : Inspects (throw e : Rendering α) := by
  intro e' he'
  rwa [← throw_inj.1 he']

theorem liftM {x : Except InspectError α} (h : MemoryInspector.Inspects x) :
    Inspects (liftM x : Rendering α) := by
  cases x with
  | ok a => exact .pure a
  | error e => exact .throw (h e rfl)

theorem bind {rendering : Rendering α} {f : α → Rendering β} (h : Inspects rendering)
    (hf : ∀ a, Inspects (f a)) : Inspects (rendering >>= f) := by
  cases houtcome : rendering.run with
  | none =>
    have hnone : rendering = outOfDepth := houtcome
    rw [hnone]
    exact fun e he ↦ absurd he (outOfDepth_ne_throw e)
  | some outcome =>
    cases outcome with
    | ok a =>
      have hpure : rendering = Pure.pure a := houtcome
      rw [hpure, pure_bind]
      exact hf a
    | error e =>
      have hthrow : rendering = MonadExcept.throw e := houtcome
      have hfailed : rendering >>= f = MonadExcept.throw e := by
        rw [hthrow]
        rfl
      rw [hfailed]
      exact .throw (h e hthrow)

theorem mapM {parts : List α} {render : α → Rendering β} (h : ∀ part ∈ parts, Inspects (render part)) :
    Inspects (parts.mapM render) := by
  induction parts with
  | nil => exact .pure []
  | cons part rest ih =>
    obtain ⟨hpart, hrest⟩ := List.forall_mem_cons.1 h
    rw [List.mapM_cons]
    exact hpart.bind fun first ↦ (ih hrest).bind fun others ↦ .pure _

/-- A part that is shown in its place has no failure left. -/
theorem inPlace (part : Rendering String) : Inspects part.inPlace := by
  intro e he
  obtain ⟨outcome, -, houtcome⟩ := Option.map_eq_some_iff.1 he
  cases outcome <;> cases houtcome

end Inspects

end Rendering

open Rendering

/-- The printers fail only where an inspection fails, if the values inside are displayed so. -/
def Printers.Inspect (printers : Printers) : Prop :=
  ∀ registration ∈ printers, ∀ (display : Value → Rendering String) (target : Target),
    (∀ value, (display value).Inspects) → ∀ value, (registration.print display target value).Inspects

variable {printers : Printers} {target : Target} {value : Value} {display : Value → Rendering String}

theorem inspects_scalarText (kind : Scalar) : Inspects (scalarText target value kind) := by
  apply (target.inspects_readInteger value).bind
  intro number
  cases kind <;> exact .ok _

/-- Members and elements that fail are marked, so that the native form fails by itself alone. -/
theorem inspects_nativeForm : (nativeForm display target value).Inspects := by
  unfold nativeForm
  split
  · exact .pure _
  · exact .liftM (inspects_scalarText _)
  · exact (Inspects.liftM (target.inspects_readBits value)).bind fun bits ↦ .pure _
  · exact (Inspects.liftM (target.inspects_readBytes value)).bind fun bytes ↦ .pure _
  · apply (Inspects.liftM (target.types.inspects_valueSize value.type)).bind
    intro size
    split
    · exact .throw trivial
    · apply (Inspects.liftM (target.inspects_readArray _ _ _)).bind
      intro elements
      exact (Inspects.mapM fun element _ ↦ .inPlace _).bind fun texts ↦ .pure _
  · apply (Inspects.liftM (target.types.inspects_record _)).bind
    intro layout
    refine (Inspects.mapM fun field _ ↦ ?_).bind fun texts ↦ .pure _
    split
    · exact (Inspects.inPlace _).bind fun text ↦ .pure _
    · exact (Inspects.pure _).bind fun text ↦ .pure _

theorem inspects_displayWithin (hprinters : printers.Inspect) (depth : Nat) (value : Value) :
    (displayWithin printers target depth value).Inspects := by
  induction depth generalizing value with
  | zero => exact fun e he ↦ absurd he (outOfDepth_ne_throw e)
  | succ depth ih =>
    rw [displayWithin]
    split
    · next print hfind =>
      obtain ⟨registration, hregistration, rfl⟩ := Printers.exists_of_find? hfind
      exact hprinters registration hregistration _ target ih value
    · split
      · split
        · next print hfind =>
          obtain ⟨registration, hregistration, rfl⟩ := Printers.exists_of_find? hfind
          apply (Inspects.liftM (target.inspects_dereference value)).bind
          intro pointed
          exact hprinters registration hregistration _ target ih pointed
        · exact inspects_nativeForm
      · exact inspects_nativeForm

end MemoryInspector
