import MemoryInspector.Proofs.Hierarchy.Enumeration
import MemoryInspector.Proofs.Hierarchy.Failure
import MemoryInspector.Proofs.Render.Endless
import MemoryInspector.Proofs.Session.Command

/-!
# Runs of the dump command

A dump command writes nothing if an argument is bad or the slots of the vector cannot be read. Else
it writes a numbered line for each element in order, and stops at the first one that cannot be
displayed, with the failure of that one. An element that is displayed without end is the last one that
the command comes to: it writes no line for it, and neither succeeds nor fails.
-/

namespace MemoryInspector

open Hierarchy Text

namespace Hierarchy

/-- The element that the slot at an index points to. -/
def ElementAt (target : Target) (vector : VectorView) (pointee : CType) (index : Nat)
    (element : Value) : Prop :=
  ∃ data bits, vector.data target = .ok data ∧ data.toNat + index * 8 < UInt64.size ∧
    target.memory.word? (UInt64.ofNat (data.toNat + index * 8)) = some bits ∧
    element = .atAddress bits pointee

/-- The elements in front, as many as there are texts, are displayed as these. -/
def Shown (target : Target) (vector : VectorView) (pointee : CType) (texts : List String) : Prop :=
  ∀ index (h : index < texts.length), ∃ element, ElementAt target vector pointee index element ∧
    display printers target element = pure texts[index]

variable {target : Target} {vector : VectorView} {pointee : CType} {slots : List Value}

/-- A slot that is read points to an element. -/
theorem exists_elementAt (hslots : vector.slots target pointee = .ok slots) {index : Nat}
    (hindex : index < slots.length) : ∃ element, ElementAt target vector pointee index element ∧
      displaySlot printers target slots[index] = display printers target element := by
  obtain ⟨count, -, hrest⟩ := VectorView.slots_eq_ok_iff.1 hslots
  rcases hrest with ⟨-, rfl⟩ | ⟨-, data, hdata, hreadable, rfl⟩
  · exact absurd hindex (Nat.not_lt_zero _)
  · rw [List.length_map, List.length_range] at hindex
    obtain ⟨hbelow, hbytes⟩ := hreadable index hindex
    obtain ⟨bytes, hbytes⟩ := Option.isSome_iff_exists.1 hbytes
    have hword : target.memory.word? (UInt64.ofNat (data.toNat + index * 8)) =
        some (UInt64.ofNat (ofLittleEndian bytes)) := by
      rw [Memory.word?, hbytes]
      rfl
    have helement := Target.dereference_eq_ok_iff.2
      ⟨pointee, _, rfl, Target.readBits_pointer_eq_ok_iff.2 hword, rfl⟩
    refine ⟨_, ⟨data, _, hdata, hbelow, hword, rfl⟩, ?_⟩
    rw [List.getElem_map, List.getElem_range, displaySlot, helement, Rendering.liftM_ok, pure_bind]

/-- The texts that an enumeration has shown are those of the elements in front. -/
theorem Enumerates.shown_elements {texts : List String} {ending : Rendering Unit}
    (hslots : vector.slots target pointee = .ok slots)
    (h : Enumerates (displaySlot printers target) slots texts ending) :
    Shown target vector pointee texts := by
  have hle : texts.length ≤ slots.length := by
    have hlength := h.shown.length_eq
    rw [List.length_take] at hlength
    omega
  intro index hindex
  obtain ⟨element, helement, hdisplay⟩ := exists_elementAt hslots (Nat.lt_of_lt_of_le hindex hle)
  have htext := h.shown.get (by rw [List.length_take]; omega) hindex
  rw [List.get_eq_getElem, List.getElem_take, hdisplay] at htext
  exact ⟨element, helement, htext⟩

end Hierarchy

namespace Session

/-- What a dump of a vector writes, and how it ends: if the slots cannot be read, with nothing
written and this failure; if all elements are displayed, well with the line of each; if one of them
fails, with the lines of those before it and its failure. If the display of one of them never ends,
neither does the dump, after the lines of those before it. -/
inductive DumpRun (target : Target) (vector : VectorView) (pointee : CType) : Execution → Prop
  | unreadable {e : InspectError} (h : VectorView.SlotsUnreadable target vector e) :
      DumpRun target vector pointee ⟨"", some (.error (.inspect e))⟩
  | finished {count : UInt64} {texts : List String}
      (hreadable : ∀ e, ¬ VectorView.SlotsUnreadable target vector e)
      (hcount : vector.length target = .ok count) (hlength : texts.length = count.toNat)
      (hshown : Shown target vector pointee texts) :
      DumpRun target vector pointee ⟨numberedLines texts, some (.ok .proceed)⟩
  | stopped {count : UInt64} {texts : List String} {element : Value} {e : InspectError}
      (hreadable : ∀ e, ¬ VectorView.SlotsUnreadable target vector e)
      (hcount : vector.length target = .ok count) (hlength : texts.length < count.toNat)
      (hshown : Shown target vector pointee texts)
      (helement : ElementAt target vector pointee texts.length element)
      (hfailed : display Hierarchy.printers target element = throw e) :
      DumpRun target vector pointee ⟨numberedLines texts, some (.error (.inspect e))⟩
  | endless {count : UInt64} {texts : List String} {element : Value}
      (hreadable : ∀ e, ¬ VectorView.SlotsUnreadable target vector e)
      (hcount : vector.length target = .ok count) (hlength : texts.length < count.toNat)
      (hshown : Shown target vector pointee texts)
      (helement : ElementAt target vector pointee texts.length element)
      (hendless : display Hierarchy.printers target element = Rendering.outOfDepth) :
      DumpRun target vector pointee ⟨numberedLines texts, none⟩

/-- The display of each element of the vector comes to an end, be it with a failure. -/
def ElementsEnd (target : Target) (vector : VectorView) (pointee : CType) : Prop :=
  ∀ count index element, vector.length target = .ok count → index < count.toNat →
    ElementAt target vector pointee index element →
    display Hierarchy.printers target element ≠ Rendering.outOfDepth

variable {session : Session} {target : Target} {vector : VectorView} {pointee : CType} {name : String}

/-- A dump that shows the slots of a vector one by one. -/
theorem dumpRun_of_enumerates {slots : List Value} {texts : List String} {ending : Rendering Unit}
    (hslots : vector.slots target pointee = .ok slots)
    (h : Enumerates (displaySlot Hierarchy.printers target) slots texts ending) :
    DumpRun target vector pointee ⟨numberedLines texts, outcomeOf ending⟩ := by
  have hreadable : ∀ e, ¬ VectorView.SlotsUnreadable target vector e := by
    intro e he
    have herror : vector.slots target pointee = .error e := VectorView.slots_eq_error_iff.2 he
    rw [hslots] at herror
    cases herror
  obtain ⟨count, hcount, -⟩ := VectorView.slots_eq_ok_iff.1 hslots
  have hlength := VectorView.length_slots hslots hcount
  have hshown := h.shown_elements hslots
  -- a dump that has not finished is at the slot after those with a text
  have hnext : ∀ slot, slots[texts.length]? = some slot → texts.length < count.toNat ∧
      ∃ element, ElementAt target vector pointee texts.length element ∧
        displaySlot Hierarchy.printers target slot = display Hierarchy.printers target element := by
    intro slot hslot
    obtain ⟨hindex, rfl⟩ := List.getElem?_eq_some_iff.1 hslot
    exact ⟨hlength ▸ hindex, exists_elementAt hslots hindex⟩
  cases hending : ending.run with
  | none =>
    obtain ⟨slot, hslot, hendless⟩ := h.endless_iff.1 (Rendering.run_eq_none_iff.1 hending)
    obtain ⟨hlt, element, helement, hdisplay⟩ := hnext slot hslot
    rw [outcomeOf_eq_none_iff.2 hending]
    exact .endless hreadable hcount hlt hshown helement (hdisplay.symm.trans hendless)
  | some outcome =>
    cases outcome with
    | error e =>
      obtain ⟨slot, hslot, hfailed⟩ := (h.failed_iff e).1 (Rendering.run_eq_error_iff.1 hending)
      obtain ⟨hlt, element, helement, hdisplay⟩ := hnext slot hslot
      rw [outcomeOf_eq_error_iff.2 ⟨e, rfl, hending⟩]
      exact .stopped hreadable hcount hlt hshown helement (hdisplay.symm.trans hfailed)
    | ok result =>
      have hfinished := h.finished_iff.1 (Rendering.run_eq_ok_iff.1 hending)
      rw [outcomeOf_eq_proceed_iff.2 ⟨result, hending⟩]
      exact .finished hreadable hcount (hfinished.trans hlength) hshown

/-- A dump with an accepted element type. -/
theorem dumpRun_dump (hname : elementType target.types name = .ok pointee) :
    DumpRun target vector pointee
      ⟨numberedLines (dump Hierarchy.printers target vector name).1,
        outcomeOf (dump Hierarchy.printers target vector name).2⟩ := by
  cases hslots : vector.slots target pointee with
  | error e =>
    have hdump : dump Hierarchy.printers target vector name = ([], throw e) := by
      simp only [dump, hname, hslots]
    rw [hdump]
    exact .unreadable (VectorView.slots_eq_error_iff.1 hslots)
  | ok slots =>
    have hscalar : ∀ kind, pointee = .scalar kind → Hierarchy.printers.find? pointee = none := by
      rintro kind rfl
      exact find?_printers_scalar kind
    rw [dump_eq_dumpSlots hname hscalar hslots]
    exact dumpRun_of_enumerates hslots (enumerates_dumpSlots _ slots)

/-! ## Arguments -/

theorem blames_of_dumpArguments {arguments : String} {e : InspectError}
    (h : dumpArguments arguments = .error e) : e.BlamesArgument := by
  unfold dumpArguments at h
  split at h <;> cases h <;> exact ⟨_, _, _, rfl⟩

theorem blames_of_vectorOf {expression : String} {e : InspectError}
    (h : vectorOf target expression = .error e) : e.BlamesArgument := by
  unfold vectorOf at h
  split at h <;> cases h
  exact ⟨_, _, _, rfl⟩

theorem blames_of_elementType {e : InspectError} (h : elementType target.types name = .error e) :
    e.BlamesArgument := by
  unfold elementType at h
  split at h <;> cases h
  exact ⟨_, _, _, rfl⟩

/-- A dump whose arguments are accepted does not blame them for its failure. -/
theorem DumpRun.isInspection {execution : Execution} {e : InspectError}
    (h : DumpRun target vector pointee execution)
    (he : execution.outcome = some (.error (.inspect e))) : e.IsInspection := by
  cases h with
  | unreadable h =>
    cases he
    exact vector.inspects_slots target pointee e (VectorView.slots_eq_error_iff.2 h)
  | finished | endless => cases he
  | stopped hreadable hcount hlength hshown helement hfailed =>
    cases he
    exact inspects_display target _ e hfailed

/-- Whatever becomes of a dump, it writes lines of elements in front, and those of all elements if it
succeeds. -/
theorem DumpRun.exists_texts {execution : Execution} (h : DumpRun target vector pointee execution) :
    ∃ texts, execution.output = numberedLines texts ∧ Shown target vector pointee texts ∧
      (execution.outcome = some (.ok .proceed) →
        ∃ count, vector.length target = .ok count ∧ texts.length = count.toNat) := by
  cases h with
  | unreadable => exact ⟨[], rfl, nofun, nofun⟩
  | finished _ hcount hlength hshown => exact ⟨_, rfl, hshown, fun _ ↦ ⟨_, hcount, hlength⟩⟩
  | stopped _ _ _ hshown | endless _ _ _ hshown => exact ⟨_, rfl, hshown, nofun⟩

/-- A dump has an outcome if the displays of all elements come to an end. -/
theorem DumpRun.outcome_ne_none {execution : Execution} (h : DumpRun target vector pointee execution)
    (hends : ElementsEnd target vector pointee) : execution.outcome ≠ none := by
  cases h with
  | unreadable | finished | stopped => exact Option.some_ne_none _
  | endless hreadable hcount hlength hshown helement hendless =>
    exact absurd hendless (hends _ _ _ hcount hlength helement)

/-- A dump either blames an argument and has written nothing, or runs over the vector. -/
theorem dumpVector_cases (hprinters : session.printers = Hierarchy.printers) (arguments : String) :
    (∃ e : InspectError, e.BlamesArgument ∧
      session.dumpVector arguments = ⟨"", some (.error (.inspect e))⟩) ∨
    ∃ expression typeName vector pointee, dumpArguments arguments = .ok (expression, typeName) ∧
      vectorOf session.target expression = .ok vector ∧
      elementType session.target.types typeName = .ok pointee ∧
      DumpRun session.target vector pointee (session.dumpVector arguments) := by
  cases harguments : dumpArguments arguments with
  | error e =>
    refine .inl ⟨e, blames_of_dumpArguments harguments, ?_⟩
    rw [dumpVector, harguments]
    rfl
  | ok both =>
    obtain ⟨expression, typeName⟩ := both
    cases hvector : vectorOf session.target expression with
    | error e =>
      exact .inl ⟨e, blames_of_vectorOf hvector, dumpVector_of_no_vector harguments hvector⟩
    | ok vector =>
      have hdump : session.dumpVector arguments =
          ⟨numberedLines (dump Hierarchy.printers session.target vector typeName).1,
            outcomeOf (dump Hierarchy.printers session.target vector typeName).2⟩ := by
        rw [dumpVector_of_operands harguments hvector, hprinters]
      cases htype : elementType session.target.types typeName with
      | error e =>
        refine .inl ⟨e, blames_of_elementType htype, ?_⟩
        rw [hdump, dump, htype]
        rfl
      | ok pointee =>
        refine .inr ⟨expression, typeName, vector, pointee, rfl, hvector, htype, ?_⟩
        rw [hdump]
        exact dumpRun_dump htype

/-- A dump command that blames an argument has written nothing. Any other one reads all slots of the
vector before it writes, and then writes the lines of the elements in order up to the first that
cannot be displayed: it succeeds if there is none, and fails else as this element does. It succeeds or
fails if the displays of all elements come to an end. -/
theorem execute_dump_run (session : Session) (hprinters : session.printers = Hierarchy.printers)
    (line : String) (hline : commandWord line = "svector-dump") :
    (∀ position which reason, (session.execute line).outcome =
      some (.error (.inspect (.invalidArgument position which reason))) →
      (session.execute line).output = "") ∧
    ((∀ position which reason, (session.execute line).outcome ≠
      some (.error (.inspect (.invalidArgument position which reason)))) →
      ∃ expression typeName vector pointee,
        dumpArguments (argumentText line) = .ok (expression, typeName) ∧
        vectorOf session.target expression = .ok vector ∧
        elementType session.target.types typeName = .ok pointee ∧
        DumpRun session.target vector pointee (session.execute line) ∧
        (ElementsEnd session.target vector pointee → (session.execute line).outcome ≠ none)) := by
  rw [execute_of_dump hline]
  obtain ⟨e, ⟨position, which, reason, rfl⟩, hblames⟩ | hruns :=
    dumpVector_cases hprinters (argumentText line)
  · rw [hblames]
    exact ⟨fun _ _ _ _ ↦ rfl, fun hnone ↦ absurd rfl (hnone position which reason)⟩
  · obtain ⟨expression, typeName, vector, pointee, harguments, hvector, htype, hrun⟩ := hruns
    refine ⟨?_, fun _ ↦ ⟨expression, typeName, vector, pointee, harguments, hvector, htype, hrun,
      hrun.outcome_ne_none⟩⟩
    intro position which reason hblames
    exact (hrun.isInspection hblames).elim

/-- A vector of three numbers, the second of which lies outside of the memory. -/
def threeIntSession : Session where
  target := {
    memory := (Snapshot.ofBytes 0x1000
      ([0, 0, 3, 0, 0, 0x1030, 0x1048, 0x9000, 0x1048, 7].flatMap wordBytes).toArray).memory
    types := types
    symbols := ∅
    symbolTypes := ∅ }
  printers := Hierarchy.printers

theorem execute_dump_run_threeInt :
    commandWord "svector-dump *(SVector*)0x1000 int" = "svector-dump" ∧
    (threeIntSession.execute "svector-dump *(SVector*)0x1000 int").outcome =
      some (.error (.inspect (.unreadable 0x9000 4))) ∧
    (threeIntSession.execute "svector-dump *(SVector*)0x1000 int").output = "0: 7\n" ∧
    ∃ expression typeName vector pointee,
      dumpArguments (argumentText "svector-dump *(SVector*)0x1000 int") = .ok (expression, typeName) ∧
      vectorOf threeIntSession.target expression = .ok vector ∧
      elementType threeIntSession.target.types typeName = .ok pointee ∧
      DumpRun threeIntSession.target vector pointee
        (threeIntSession.execute "svector-dump *(SVector*)0x1000 int") := by
  have hcommand : commandWord "svector-dump *(SVector*)0x1000 int" = "svector-dump" := by
    decide +kernel
  have hfailed : (threeIntSession.execute "svector-dump *(SVector*)0x1000 int").outcome =
      some (.error (.inspect (.unreadable 0x9000 4))) := by
    decide +kernel
  have hoperands : ∀ position which reason,
      (threeIntSession.execute "svector-dump *(SVector*)0x1000 int").outcome ≠
        some (.error (.inspect (.invalidArgument position which reason))) := by
    intro position which reason hblames
    rw [hfailed] at hblames
    cases hblames
  obtain ⟨expression, typeName, vector, pointee, harguments, hvector, htype, hrun, -⟩ :=
    (execute_dump_run threeIntSession rfl _ hcommand).2 hoperands
  exact ⟨hcommand, hfailed, by decide +kernel, expression, typeName, vector, pointee, harguments,
    hvector, htype, hrun⟩

/-! ## Elements without end -/

/-- A record that is a member of itself. -/
def nestedLayout : RecordLayout := ⟨"loop", 8, [⟨"next", 0, .record "loop"⟩]⟩

/-- A vector of one such record. -/
def nestedSession : Session where
  target := {
    memory := (Snapshot.ofBytes 0x1000
      ([0, 0, 1, 0, 0, 0x1030, 0x1038, 0].flatMap wordBytes).toArray).memory
    types := types.addRecord nestedLayout
    symbols := ∅
    symbolTypes := ∅ }
  printers := Hierarchy.printers

theorem display_nestedSession (address : UInt64) :
    display nestedSession.printers nestedSession.target (.atAddress address (.record "loop")) =
      Rendering.outOfDepth := by
  have hprinter : Hierarchy.printers.find? (.record "loop") = none := by
    rw [find?_printers, if_neg (by decide)]
  have hlayout : nestedSession.target.types.record? "loop" = some nestedLayout := by decide
  let own : Field := ⟨"next", 0, .record "loop"⟩
  have hfield : nestedLayout.field? own.name = some own := by decide
  obtain ⟨depth, -, hdisplay⟩ := exists_display_eq nestedSession.printers nestedSession.target
    (.atAddress address (.record "loop"))
  rw [hdisplay]
  exact displayWithin_record_of_own hprinter hlayout hfield rfl (depth + 1) address

/-- The vector at the start of the memory. -/
def nestedVector : VectorView := ⟨.atAddress 0x1000 (.record vectorType)⟩

theorem slots_nestedVector : nestedVector.slots nestedSession.target (.record "loop") =
    .ok [.atAddress 0x1030 (.pointer (.record "loop"))] := by
  decide +kernel

theorem elementType_nestedSession :
    elementType nestedSession.target.types "loop" = .ok (.record "loop") := by
  decide +kernel

theorem dump_nestedSession : dump nestedSession.printers nestedSession.target nestedVector "loop" =
    ([], Rendering.outOfDepth) := by
  have helement : nestedSession.target.dereference (.atAddress 0x1030 (.pointer (.record "loop"))) =
      .ok (.atAddress 0x1038 (.record "loop")) := by
    decide +kernel
  rw [dump_eq_dumpSlots elementType_nestedSession nofun slots_nestedVector, dumpSlots]
  rw [displaySlot, helement, Rendering.liftM_ok, pure_bind, display_nestedSession]
  rfl

/-- The vector can be read, and so can its only slot, but the command neither succeeds nor fails. -/
theorem execute_dump_endless_loop :
    commandWord "svector-dump '*(SVector *)0x1000' loop" = "svector-dump" ∧
    dumpArguments (argumentText "svector-dump '*(SVector *)0x1000' loop") =
      .ok ("*(SVector *)0x1000", "loop") ∧
    vectorOf nestedSession.target "*(SVector *)0x1000" = .ok nestedVector ∧
    elementType nestedSession.target.types "loop" = .ok (.record "loop") ∧
    (∀ e, ¬ VectorView.SlotsUnreadable nestedSession.target nestedVector e) ∧
    nestedSession.execute "svector-dump '*(SVector *)0x1000' loop" = ⟨"", none⟩ := by
  have hcommand : commandWord "svector-dump '*(SVector *)0x1000' loop" = "svector-dump" := by
    decide +kernel
  have harguments : dumpArguments (argumentText "svector-dump '*(SVector *)0x1000' loop") =
      .ok ("*(SVector *)0x1000", "loop") := by
    decide +kernel
  have hvector : vectorOf nestedSession.target "*(SVector *)0x1000" = .ok nestedVector := by
    decide +kernel
  refine ⟨hcommand, harguments, hvector, elementType_nestedSession, ?_, ?_⟩
  · intro e he
    cases slots_nestedVector.symm.trans (VectorView.slots_eq_error_iff.2 he)
  · rw [execute_of_dump hcommand, dumpVector_of_operands harguments hvector, dump_nestedSession]
    rfl

end Session

end MemoryInspector
