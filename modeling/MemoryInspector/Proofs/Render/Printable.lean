import MemoryInspector.Proofs.Render.Rendering
import MemoryInspector.Proofs.Target.Printable

/-!
# Displayed texts are printable

The display of a value whose names are printable is a printable text, markers of failed parts
included, as long as all printers keep to printable texts.
-/

namespace MemoryInspector

open Text

namespace Rendering

variable {α β : Type} {good : α → Prop} {good' : β → Prop}

/-- A rendering that ends, ends with a good result or a printable message. -/
def Clean (good : α → Prop) (rendering : Rendering α) : Prop :=
  ∀ result, rendering.run = some result → CleanResult good result

theorem clean_pure {a : α} (h : good a) : Clean good (pure a) := by
  intro result hresult
  cases hresult
  exact h

theorem clean_throw {e : InspectError} (h : Printable e.message) : Clean good (throw e) := by
  intro result hresult
  cases hresult
  exact h

theorem clean_liftM {x : Except InspectError α} (h : CleanResult good x) : Clean good (liftM x) := by
  intro result hresult
  cases hresult
  exact h

theorem Clean.bind {x : Rendering α} {f : α → Rendering β} (hx : Clean good x)
    (hf : ∀ a, good a → Clean good' (f a)) : Clean good' (x >>= f) := by
  intro result hresult
  rw [ExceptT.run_bind] at hresult
  cases hrun : x.run with
  | none =>
    rw [hrun] at hresult
    cases hresult
  | some found =>
    have hfound := hx found hrun
    rw [hrun] at hresult
    cases found with
    | ok a => exact hf a hfound result hresult
    | error e =>
      cases hresult
      exact hfound

theorem clean_mapM {f : α → Rendering β} {parts : List α}
    (h : ∀ part ∈ parts, Clean good' (f part)) :
    Clean (fun results ↦ ∀ result ∈ results, good' result) (parts.mapM f) := by
  induction parts with
  | nil => exact clean_pure (List.forall_mem_nil _)
  | cons part rest ih =>
    rw [List.mapM_cons]
    apply (h part List.mem_cons_self).bind
    intro first hfirst
    apply (ih fun part hpart ↦ h part (List.mem_cons_of_mem _ hpart)).bind
    intro others hothers
    exact clean_pure (List.forall_mem_cons.2 ⟨hfirst, hothers⟩)

theorem printable_marker {e : InspectError} (h : Printable e.message) : Printable (marker e) :=
  ((by decide : Printable "<error while printing value: ").append h).append (by decide)

/-- A part that fails leaves its marker. -/
theorem Clean.inPlace {part : Rendering String} (h : Clean Printable part) :
    Clean Printable part.inPlace := by
  intro result hresult
  obtain ⟨found, hfound, rfl⟩ := Option.map_eq_some_iff.1 hresult
  have hclean := h found hfound
  cases found with
  | ok text => exact hclean
  | error e => exact printable_marker hclean

end Rendering

/-- Values with printable names are shown as printable texts. -/
def CleanDisplay (display : Value → Rendering String) : Prop :=
  ∀ value : Value, value.type.HasPrintable → (display value).Clean Printable

/-- The printers show printable texts where the values inside are shown so. -/
def Printers.Clean (printers : Printers) : Prop :=
  ∀ registration ∈ printers, ∀ (display : Value → Rendering String) (target : Target),
    target.types.HasPrintable → CleanDisplay display → CleanDisplay (registration.print display target)

variable {target : Target} {value : Value} {printers : Printers} {display : Value → Rendering String}

theorem printable_braced {parts : List String} (h : ∀ part ∈ parts, Printable part) :
    Printable (braced parts) :=
  ((by decide : Printable "\x7b").append (printable_intercalate (by decide) h)).append (by decide)

theorem clean_scalarText (hvalue : value.type.HasPrintable) (kind : Scalar) :
    CleanResult Printable (scalarText target value kind) := by
  rw [scalarText]
  apply (Target.clean_readInteger hvalue).bind
  intro number _
  split
  · show Printable _
    split <;> decide
  · exact ((printable_signedDecimal number).append (by decide)).append (printable_quoteChar _)
  · exact printable_signedDecimal number

theorem clean_nativeForm (htypes : target.types.HasPrintable)
    (hdisplay : CleanDisplay display) (hvalue : value.type.HasPrintable) :
    (nativeForm display target value).Clean Printable := by
  unfold nativeForm
  split
  · exact Rendering.clean_pure (by decide)
  · exact Rendering.clean_liftM (clean_scalarText hvalue _)
  · apply (Rendering.clean_liftM (Target.clean_readBits hvalue)).bind
    intro bits _
    exact Rendering.clean_pure ((by decide : Printable "0x").append (printable_hex _))
  · apply (Rendering.clean_liftM (Target.clean_readBytes hvalue)).bind
    intro bytes _
    exact Rendering.clean_pure (printable_quoteString bytes)
  · next element length hchar htype =>
    apply (Rendering.clean_liftM (Registry.clean_valueSize hvalue)).bind
    intro size _
    split
    · exact Rendering.clean_throw
        (InspectError.printable_evaluation (CType.printable_spelling hvalue) (by decide))
    · rw [htype] at hvalue
      have helement : element.HasPrintable := hvalue
      apply (Rendering.clean_liftM (Target.clean_readArray helement _ _)).bind
      intro elements helements
      refine (Rendering.clean_mapM fun element helement ↦
        (hdisplay element (helements element helement)).inPlace).bind fun texts htexts ↦ ?_
      exact Rendering.clean_pure (printable_braced htexts)
  · next record htype =>
    have hrecord : Printable record := by
      rw [htype] at hvalue
      exact hvalue
    apply (Rendering.clean_liftM (Registry.clean_record hrecord)).bind
    intro layout hlayout
    refine (Rendering.clean_mapM fun field hfield ↦ ?_).bind fun texts htexts ↦
      Rendering.clean_pure (printable_braced htexts)
    have hname := (htypes.field record layout hlayout field hfield).1
    have hmember := Target.clean_field htypes hvalue hname
    have hpart : ∀ text, Printable text → Rendering.Clean Printable (pure s!"{field.name} = {text}") :=
      fun text htext ↦ Rendering.clean_pure ((hname.append (by decide)).append htext)
    split
    · next member hfound =>
      rw [hfound] at hmember
      exact (hdisplay member hmember).inPlace.bind hpart
    · next e he =>
      rw [he] at hmember
      exact (Rendering.clean_pure (Rendering.printable_marker hmember)).bind hpart

theorem clean_displayWithin (htypes : target.types.HasPrintable) (hprinters : printers.Clean)
    (depth : Nat) : CleanDisplay (displayWithin printers target depth) := by
  induction depth with
  | zero =>
    intro value _ result hresult
    cases hresult
  | succ depth ih =>
    intro value hvalue
    rw [displayWithin]
    split
    · next print hfind =>
      obtain ⟨registration, hregistration, rfl⟩ := Printers.exists_of_find? hfind
      exact hprinters registration hregistration _ target htypes ih value hvalue
    · split
      · next pointee htype =>
        split
        · next print hfind =>
          obtain ⟨registration, hregistration, rfl⟩ := Printers.exists_of_find? hfind
          apply (Rendering.clean_liftM (Target.clean_dereference hvalue)).bind
          intro pointed hpointed
          exact hprinters registration hregistration _ target htypes ih pointed hpointed
        · exact clean_nativeForm htypes ih hvalue
      · exact clean_nativeForm htypes ih hvalue

/-- What is displayed is printable. -/
theorem printable_of_display (htypes : target.types.HasPrintable) (hprinters : printers.Clean)
    (hvalue : value.type.HasPrintable) {text : String}
    (htext : MemoryInspector.display printers target value = pure text) : Printable text := by
  exact clean_displayWithin htypes hprinters _ value hvalue (.ok text) (congrArg ExceptT.run htext)

end MemoryInspector
