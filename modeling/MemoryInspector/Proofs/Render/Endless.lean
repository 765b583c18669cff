import MemoryInspector.Proofs.Render.Rendering
import MemoryInspector.Proofs.Target.Reading

/-!
# Displays without end

A record is displayed when all of its members are, be it that they fail. So records that have members
of each other, each of them one of the next, have no display: from any depth, each member takes up one
level, and there is always another one.
-/

namespace MemoryInspector

namespace Rendering

variable {α β : Type}

theorem outOfDepth_bind (f : α → Rendering β) : (outOfDepth >>= f) = outOfDepth := rfl

/-- In its place, a part is shown or goes on without end. -/
theorem inPlace_cases (part : Rendering String) :
    (∃ text, part.inPlace = pure text) ∨ part.inPlace = outOfDepth := by
  match part with
  | some (.ok text) => exact .inl ⟨text, rfl⟩
  | some (.error e) => exact .inl ⟨marker e, rfl⟩
  | none => exact .inr rfl

/-- Parts of which none fails go on without end if one of them does. -/
theorem mapM_eq_outOfDepth {elements : List α} {render : α → Rendering β}
    (hparts : ∀ element ∈ elements,
      (∃ shown, render element = pure shown) ∨ render element = outOfDepth)
    (hendless : ∃ element ∈ elements, render element = outOfDepth) :
    elements.mapM render = outOfDepth := by
  induction elements with
  | nil =>
    obtain ⟨_, hmem, -⟩ := hendless
    cases hmem
  | cons element rest ih =>
    obtain ⟨hfirst, hrest⟩ := List.forall_mem_cons.1 hparts
    rw [List.mapM_cons]
    rcases hfirst with ⟨shown, hshown⟩ | hnone
    · obtain ⟨other, hmem, hother⟩ := hendless
      rcases List.mem_cons.1 hmem with rfl | hmem
      · rw [hother] at hshown
        exact absurd hshown (outOfDepth_ne_pure _)
      · rw [hshown, pure_bind, ih hrest ⟨other, hmem, hother⟩]
        rfl
    · rw [hnone]
      rfl

end Rendering

open Rendering

variable {printers : Printers} {target : Target} {display : Value → Rendering String} {name : String}
  {layout : RecordLayout} {field : Field} {address : UInt64} {type : CType}

/-- A record with a member that is displayed without end is displayed without end. -/
theorem nativeForm_eq_outOfDepth (hlayout : target.types.record? name = some layout)
    (hfield : layout.field? field.name = some field)
    (hendless : ∀ address, display (.atAddress address field.type) = outOfDepth) :
    nativeForm display target (.atAddress address (.record name)) = outOfDepth := by
  have hmember : target.field (.atAddress address (.record name)) field.name =
      .ok (.atAddress (address + field.offset) field.type) :=
    Target.field_eq_ok_iff.2 ⟨name, address, layout, field, rfl, hlayout, hfield, rfl⟩
  simp only [nativeForm, Value.type_atAddress, Registry.record_eq_ok_iff.2 hlayout, liftM_ok,
    pure_bind]
  rw [mapM_eq_outOfDepth]
  · rfl
  · intro other _
    split
    · next member _ =>
      rcases inPlace_cases (display member) with ⟨text, htext⟩ | hnone
      · exact .inl ⟨_, by rw [htext, pure_bind]⟩
      · exact .inr (by rw [hnone, outOfDepth_bind])
    · exact .inl ⟨_, rfl⟩
  · refine ⟨field, List.mem_of_find?_eq_some hfield, ?_⟩
    rw [hmember]
    dsimp only
    rw [hendless]
    rfl

/-- Records without a printer, of which each has a member that is one of them, are displayed without end:
no depth is enough. -/
theorem displayWithin_eq_outOfDepth {endless : CType → Prop}
    (hmember : ∀ type, endless type → ∃ name layout field, type = .record name ∧
      printers.find? (.record name) = none ∧ target.types.record? name = some layout ∧
      layout.field? field.name = some field ∧ endless field.type)
    (depth : Nat) (h : endless type) (address : UInt64) :
    displayWithin printers target depth (.atAddress address type) = outOfDepth := by
  induction depth generalizing type address with
  | zero => rfl
  | succ depth ih =>
    obtain ⟨name, layout, field, rfl, hprinter, hlayout, hfield, hnext⟩ := hmember type h
    rw [displayWithin, Value.type_atAddress, hprinter]
    exact nativeForm_eq_outOfDepth hlayout hfield fun address ↦ ih hnext address

/-- A record with a member of its own type is displayed without end. -/
theorem displayWithin_record_of_own (hprinter : printers.find? (.record name) = none)
    (hlayout : target.types.record? name = some layout)
    (hfield : layout.field? field.name = some field) (hown : field.type = .record name) (depth : Nat)
    (address : UInt64) :
    displayWithin printers target depth (.atAddress address (.record name)) = outOfDepth := by
  let Own (type : CType) : Prop := type = .record name
  have hself : Own (.record name) := rfl
  refine displayWithin_eq_outOfDepth (fun type htype ↦ ?_) depth hself address
  exact ⟨name, layout, field, htype, hprinter, hlayout, hfield, hown⟩

end MemoryInspector
