import MemoryInspector.Proofs.Render.Rendering
import MemoryInspector.Proofs.Target.Reading

/-!
# Renderings that settle

A rendering settles on another one if it has an outcome and the other one has the same outcome.
What is put together of parts settles where its parts do, so a display that goes deeper gives the
outcome that the less deep one has, if it has one.
-/

namespace MemoryInspector

namespace Rendering

variable {α β : Type}

/-- The rendering has an outcome, which the other one has too. -/
structure Settles (part other : Rendering α) : Prop where
  ne_outOfDepth : part ≠ outOfDepth
  eq : other = part

theorem settles_pure (a : α) : Settles (pure a) (pure a) := ⟨pure_ne_outOfDepth a, rfl⟩

theorem settles_throw (e : InspectError) : Settles (throw e : Rendering α) (throw e) :=
  ⟨throw_ne_outOfDepth e, rfl⟩

theorem settles_liftM (x : Except InspectError α) :
    Settles (liftM x : Rendering α) (liftM x) := by
  cases x with
  | ok a => exact settles_pure a
  | error e => exact settles_throw e

theorem Settles.bind {part other : Rendering α} {f g : α → Rendering β} (h : Settles part other)
    (hnext : ∀ a, part = pure a → Settles (f a) (g a)) : Settles (part >>= f) (other >>= g) := by
  obtain ⟨hpart, rfl⟩ := h
  cases houtcome : other.run with
  | none => exact absurd houtcome hpart
  | some outcome =>
    cases outcome with
    | ok a =>
      have hother : other = pure a := houtcome
      rw [hother, pure_bind, pure_bind]
      exact hnext a hother
    | error e =>
      have hother : other = throw e := houtcome
      rw [hother]
      exact settles_throw e

/-- What follows on an inspection has to settle only for the result that the inspection has. -/
theorem settles_liftM_bind {x : Except InspectError α} {f g : α → Rendering β}
    (hnext : ∀ a, x = .ok a → Settles (f a) (g a)) :
    Settles (liftM x >>= f) (liftM x >>= g) := by
  apply (settles_liftM x).bind
  intro a ha
  cases x with
  | ok found =>
    cases Option.some.inj ha
    exact hnext _ rfl
  | error e => cases Option.some.inj ha

theorem settles_mapM {parts : List α} {render render' : α → Rendering β}
    (h : ∀ part ∈ parts, Settles (render part) (render' part)) :
    Settles (parts.mapM render) (parts.mapM render') := by
  induction parts with
  | nil => exact settles_pure []
  | cons part rest ih =>
    obtain ⟨hpart, hrest⟩ := List.forall_mem_cons.1 h
    rw [List.mapM_cons, List.mapM_cons]
    apply hpart.bind
    intro first _
    apply (ih hrest).bind
    intro others _
    exact settles_pure (first :: others)

theorem Settles.inPlace {part other : Rendering String} (h : Settles part other) :
    Settles part.inPlace other.inPlace := by
  obtain ⟨hpart, rfl⟩ := h
  refine ⟨?_, rfl⟩
  intro hnone
  exact hpart (Option.map_eq_none_iff.1 hnone)

end Rendering

open Rendering

variable {target : Target} {value : Value} {display display' : Value → Rendering String}

/-- All values of the type are displayed, and in the same way by both displays. -/
def SettlesOn (display display' : Value → Rendering String) (type : CType) : Prop :=
  ∀ value : Value, value.type = type → Settles (display value) (display' value)

/-- A value settles in its native form if its elements or the members of its record do. -/
theorem settles_nativeForm
    (hArray : ∀ element length, value.type = .array element length → SettlesOn display display' element)
    (hRecord : ∀ name layout, value.type = .record name → target.types.record? name = some layout →
      ∀ field ∈ layout.fields, SettlesOn display display' field.type) :
    Settles (nativeForm display target value) (nativeForm display' target value) := by
  unfold nativeForm
  split
  · exact settles_pure _
  · exact settles_liftM _
  · exact settles_liftM_bind fun bits _ ↦ settles_pure _
  · exact settles_liftM_bind fun bytes _ ↦ settles_pure _
  · next element length _ htype =>
    apply settles_liftM_bind
    intro size _
    split
    · exact settles_throw _
    · next address _ =>
      apply settles_liftM_bind
      intro elements helements
      obtain ⟨_, -, -, rfl⟩ := Target.readArray_eq_ok_iff.1 helements
      apply Settles.bind
      · apply settles_mapM
        intro found hfound
        obtain ⟨index, -, rfl⟩ := List.mem_map.1 hfound
        exact (hArray element length htype _ rfl).inPlace
      · intro texts _
        exact settles_pure _
  · next name htype =>
    apply settles_liftM_bind
    intro layout hlayout
    apply Settles.bind
    · apply settles_mapM
      intro field hfield
      split
      · next member hmember =>
        obtain ⟨record, address, layout', field', rfl, hlayout', hfield', rfl⟩ :=
          Target.field_eq_ok_iff.1 hmember
        cases htype
        rw [Registry.record_eq_ok_iff.1 hlayout] at hlayout'
        cases hlayout'
        have hmember : SettlesOn display display' field'.type :=
          hRecord _ layout rfl (Registry.record_eq_ok_iff.1 hlayout) field'
            (List.mem_of_find?_eq_some hfield')
        exact (hmember _ rfl).inPlace.bind fun text _ ↦ settles_pure _
      · exact (settles_pure _).bind fun text _ ↦ settles_pure _
    · intro texts _
      exact settles_pure _

end MemoryInspector
