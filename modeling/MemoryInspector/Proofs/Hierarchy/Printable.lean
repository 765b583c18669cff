import MemoryInspector.Hierarchy.Node
import MemoryInspector.Proofs.Hierarchy.Layouts
import MemoryInspector.Proofs.Render.Printable

/-!
# Displayed hierarchies are printable

The printer of nodes keeps to printable texts, and the names in the built-in layouts are printable.
-/

namespace MemoryInspector.Hierarchy

open Text

/-! ## The built-in layouts -/

theorem types_hasPrintable : types.HasPrintable where
  record name layout h := by
    obtain ⟨rfl, hlayout⟩ := mem_of_record? h
    revert layout
    decide
  field name layout h := by
    have hlayout := (mem_of_record? h).2
    clear h
    revert layout
    decide
  definition name type h := by
    have htype := mem_of_definition? h
    clear h
    revert type
    decide

/-! ## The printer of nodes -/

variable {target : Target} {value : Value} {display : Value → Rendering String}

/-- The record that a value is or points to has a type with printable names again. -/
theorem clean_vectorOfValue (hvalue : value.type.HasPrintable) :
    CleanResult (fun vector : VectorView ↦ vector.record.type.HasPrintable)
      (VectorView.ofValue target value) := by
  have hmembers : ∀ name ∈ [VectorView.dataMember, VectorView.lengthMember], Printable name := by
    decide
  rw [VectorView.ofValue]
  split
  all_goals apply @CleanResult.bind _ _ fun value ↦ value.type.HasPrintable
  · exact Target.clean_dereference hvalue
  on_goal 2 => exact hvalue
  -- What is checked of the record is the same behind a pointer.
  all_goals
    intro value hvalue
    beta_reduce
    split
    · next record htype =>
      have hrecord : Printable record := by
        rw [htype] at hvalue
        exact hvalue
      apply (Registry.clean_record hrecord).bind
      intro layout _
      split
      · next name hname =>
        exact InspectError.printable_unknownName ((hrecord.append (by decide)).append
          (hmembers name (List.mem_of_find?_eq_some hname)))
      · exact hvalue
    · exact InspectError.printable_unknownName
        (((CType.printable_spelling hvalue).append (by decide)).append (by decide))

theorem clean_slots (htypes : target.types.HasPrintable) {vector : VectorView}
    (hvector : vector.record.type.HasPrintable) {pointee : CType} (hpointee : pointee.HasPrintable) :
    CleanResult (fun slots ↦ ∀ slot ∈ slots, slot.type.HasPrintable) (vector.slots target pointee) := by
  have hmember : ∀ name, Printable name → CleanResult (fun _ ↦ True)
      (target.field vector.record name >>= target.readBits) := by
    intro name hname
    exact (Target.clean_field htypes hvector hname).bind fun member hmember ↦
      Target.clean_readBits hmember
  have hpointer : (CType.pointer pointee).HasPrintable := hpointee
  rw [VectorView.slots]
  apply (hmember _ (by decide)).bind
  intro count _
  split
  · exact List.forall_mem_nil _
  · exact (hmember _ (by decide)).bind fun address _ ↦ Target.clean_readArray hpointer _ _

theorem clean_nodeOfValue (hvalue : value.type.HasPrintable) :
    CleanResult (fun node : NodeView ↦ node.record.type.HasPrintable) (NodeView.ofValue target value) := by
  rw [NodeView.ofValue]
  split
  all_goals apply @CleanResult.bind _ _ fun value ↦ value.type.HasPrintable
  · exact Target.clean_dereference hvalue
  on_goal 2 => exact hvalue
  all_goals
    intro value hvalue
    beta_reduce
    split
    · split
      · exact hvalue
      · exact InspectError.printable_evaluation (CType.printable_spelling hvalue) (by decide)
    · exact InspectError.printable_unknownName (by decide)

theorem clean_stamp (htypes : target.types.HasPrintable) {node : NodeView}
    (hnode : node.record.type.HasPrintable) : CleanResult (fun _ ↦ True) (node.stamp target) := by
  have hmembers : ∀ name ∈ NodeView.stampMembers, Printable name := by decide
  have hparts : ∀ names ∈ NodeView.stampParts, Printable names.1 ∧ Printable names.2 := by decide
  rw [NodeView.stamp]
  split
  · exact InspectError.printable_unknownName (by decide)
  · next stamp hstamp =>
    obtain ⟨name, hname, hfound⟩ := List.exists_of_findSome?_eq_some hstamp
    have hstampType := (Target.clean_field htypes hnode (hmembers name hname)).of_ok
      (Except.toOption_eq_some_iff.1 hfound)
    split
    · exact InspectError.printable_unknownName
        ((CType.printable_spelling hstampType).append (by decide))
    · next first second hpart =>
      obtain ⟨names, hnames, hfound⟩ := List.exists_of_findSome?_eq_some hpart
      obtain ⟨hfirstName, hsecondName⟩ := hparts names hnames
      unfold NodeView.stampPart? at hfound
      split at hfound
      · next first' second' hfirst hsecond =>
        cases hfound
        apply (Target.clean_readInteger
          ((Target.clean_field htypes hstampType hfirstName).of_ok hfirst)).bind
        intro seconds _
        apply (Target.clean_readInteger
          ((Target.clean_field htypes hstampType hsecondName).of_ok hsecond)).bind
        intro nanoseconds _
        exact trivial
      · cases hfound

theorem clean_renderIds (htypes : target.types.HasPrintable)
    (hdisplay : CleanDisplay display) {vector : VectorView}
    (hvector : vector.record.type.HasPrintable) {slotType : CType}
    (hslotType : slotType.HasPrintable) :
    (renderIds display target vector slotType).Clean Printable := by
  unfold renderIds
  split
  · exact Rendering.clean_throw (InspectError.printable_unknownName
      ((CType.printable_spelling hslotType).append (by decide)))
  · next pointee hpointee =>
    have hpointee : pointee.HasPrintable := by
      cases slotType with
      | pointer type =>
        cases hpointee
        exact hslotType
      | _ => cases hpointee
    split
    · have hid : ∀ slot : Value, slot.type.HasPrintable → Rendering.Clean Printable (do
          let record ← target.dereference slot
          let id ← target.field record "id"
          let text ← display id
          pure s!"{text}, ") := by
        intro slot hslot
        apply (Rendering.clean_liftM (Target.clean_dereference hslot)).bind
        intro record hrecord
        apply (Rendering.clean_liftM (Target.clean_field htypes hrecord (by decide))).bind
        intro id hid
        exact (hdisplay id hid).bind fun text htext ↦
          Rendering.clean_pure (htext.append (by decide))
      apply (Rendering.clean_liftM (clean_slots htypes hvector hpointee)).bind
      intro slots hslots
      apply (Rendering.clean_mapM fun slot hslot ↦ hid slot (hslots slot hslot)).bind
      intro ids hids
      apply Rendering.clean_pure
      apply printable_join
      intro text htext
      rcases List.mem_append.1 htext with htext | htext
      · rcases List.mem_cons.1 htext with rfl | htext
        · decide
        · exact hids text htext
      · cases List.mem_singleton.1 htext
        decide
    · exact Rendering.clean_throw (InspectError.printable_unknownName
        ((CType.printable_spelling hpointee).append (by decide)))

theorem printable_stampText (stamp : Stamp) : Printable stamp.text :=
  (printable_signedHex _).append (printable_signedHex _)

theorem clean_render (htypes : target.types.HasPrintable)
    (hdisplay : CleanDisplay display) {node : NodeView} (hnode : node.record.type.HasPrintable) :
    (node.render display target).Clean Printable := by
  have hneighbours : ∀ name, Printable name → CleanResult
      (fun vector : VectorView ↦ vector.record.type.HasPrintable)
      (target.field node.record name >>= VectorView.ofValue target) := by
    intro name hname
    exact (Target.clean_field htypes hnode hname).bind fun member hmember ↦
      clean_vectorOfValue hmember
  unfold NodeView.render
  split
  · exact Rendering.clean_pure (by decide)
  · apply (Rendering.clean_liftM (Target.clean_field htypes hnode (by decide))).bind
    intro id hid
    apply (hdisplay id hid).bind
    intro idText hidText
    apply (Rendering.clean_liftM (clean_stamp htypes hnode)).bind
    intro stamp _
    apply (Rendering.clean_liftM (Registry.clean_resolve htypes (by decide))).bind
    intro slotType hslotType
    apply (Rendering.clean_liftM (hneighbours "parents" (by decide))).bind
    intro vector hvector
    apply (clean_renderIds htypes hdisplay hvector hslotType).bind
    intro parents hparents
    apply (Rendering.clean_liftM (hneighbours "children" (by decide))).bind
    intro vector hvector
    apply (clean_renderIds htypes hdisplay hvector hslotType).bind
    intro children hchildren
    have hid : Printable ("\x7bid: " ++ idText ++ ", visit_stamp: " ++ stamp.text) :=
      (((by decide : Printable "\x7bid: ").append hidText).append (by decide)).append
        (printable_stampText stamp)
    have hids : Printable ("children: " ++ children ++ "\x7d") :=
      ((by decide : Printable "children: ").append hchildren).append (by decide)
    exact Rendering.clean_pure
      ((((hid.append (by decide)).append hparents).append (by decide)).append hids)

/-- The printers of the hierarchy keep to printable texts. -/
theorem printers_clean : printers.Clean := by
  intro registration hregistration display target htypes hdisplay value hvalue
  cases List.mem_singleton.1 hregistration
  exact (Rendering.clean_liftM (clean_nodeOfValue hvalue)).bind fun node hnode ↦
    clean_render htypes hdisplay hnode

end MemoryInspector.Hierarchy
