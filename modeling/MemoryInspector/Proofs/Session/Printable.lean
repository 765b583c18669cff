import MemoryInspector.Proofs.Hierarchy.Printable
import MemoryInspector.Proofs.Session.DumpRun

/-!
# Lines of a dump are printable

With printable names of types and fields, whatever the memory holds is shown by printable texts, so
that a dump writes one line for each element that it shows.
-/

namespace MemoryInspector

open Hierarchy Text

/-! ## Lines -/

/-- Lines of which each has one newline have as many newlines as they are. -/
theorem Text.count_newline_join {lines : List String} (h : ∀ line ∈ lines, line.toList.count '\n' = 1) :
    (String.join lines).toList.count '\n' = lines.length := by
  induction lines with
  | nil => rfl
  | cons line rest ih =>
    obtain ⟨hline, hrest⟩ := List.forall_mem_cons.1 h
    rw [String.join_cons, String.toList_append, List.count_append, hline, ih hrest, List.length_cons,
      Nat.add_comm]

theorem Text.Printable.count_newline {text : String} (h : Printable text) :
    (text ++ "\n").toList.count '\n' = 1 := by
  rw [String.toList_append, List.count_append, List.count_eq_zero_of_not_mem h.newline_not_mem]
  rfl

/-- Printable texts are written on one line each. -/
theorem Session.count_newline_numberedLines {texts : List String} (h : ∀ text ∈ texts, Printable text) :
    (numberedLines texts).toList.count '\n' = texts.length := by
  have hlines : ∀ written ∈ texts.mapIdx fun index text ↦ s!"{decimal index}: {text}\n",
      written.toList.count '\n' = 1 := by
    intro written hwritten
    obtain ⟨index, hindex, rfl⟩ := List.mem_mapIdx.1 hwritten
    have htext := h _ (List.getElem_mem hindex)
    exact (((printable_decimal index).append (by decide)).append htext).count_newline
  rw [numberedLines, count_newline_join hlines, List.length_mapIdx]

/-! ## Elements -/

/-- The texts that elements are shown by are printable. -/
theorem Hierarchy.Shown.printable {target : Target} {vector : VectorView} {pointee : CType}
    {texts : List String} (h : Shown target vector pointee texts) (htypes : target.types.HasPrintable)
    (hpointee : pointee.HasPrintable) : ∀ text ∈ texts, Printable text := by
  intro text htext
  obtain ⟨index, hindex, rfl⟩ := List.mem_iff_getElem.1 htext
  obtain ⟨_, ⟨data, bits, -, -, -, rfl⟩, hdisplay⟩ := h index hindex
  exact printable_of_display htypes printers_clean hpointee hdisplay

namespace Session

/-- With printable names of types and fields, what is displayed is printable, markers of failed parts
included, whatever bytes the memory holds. So a dump writes exactly one line for each element that it
shows: for none if its arguments are bad, and for all elements if it succeeds. -/
theorem printable_display_and_dump (target : Target) (htypes : target.types.HasPrintable) :
    (∀ value : Value, value.type.HasPrintable → ∀ text,
      display Hierarchy.printers target value = pure text → Printable text) ∧
    ∀ line, commandWord line = "svector-dump" → ∃ texts : List String,
      (∀ text ∈ texts, Printable text) ∧
      ((Session.mk target Hierarchy.printers).execute line).output =
        String.join (texts.mapIdx fun index text ↦ s!"{decimal index}: {text}\n") ∧
      ((Session.mk target Hierarchy.printers).execute line).output.toList.count '\n' =
        texts.length ∧
      ((∃ e : InspectError, e.BlamesArgument ∧ texts = [] ∧
          (Session.mk target Hierarchy.printers).execute line = ⟨"", some (.error (.inspect e))⟩) ∨
        ∃ expression typeName vector pointee,
          dumpArguments (argumentText line) = .ok (expression, typeName) ∧
          vectorOf target expression = .ok vector ∧
          elementType target.types typeName = .ok pointee ∧ Shown target vector pointee texts ∧
          (((Session.mk target Hierarchy.printers).execute line).outcome = some (.ok .proceed) →
            ∃ count, vector.length target = .ok count ∧ texts.length = count.toNat)) := by
  constructor
  · intro value hvalue text htext
    exact printable_of_display htypes printers_clean hvalue htext
  · intro line hline
    have hprinters : (Session.mk target Hierarchy.printers).printers = Hierarchy.printers := rfl
    rw [execute_of_dump hline]
    rcases dumpVector_cases hprinters (argumentText line) with
      ⟨e, he, hblames⟩ | ⟨expression, typeName, vector, pointee, harguments, hvector, htype, hrun⟩
    · rw [hblames]
      exact ⟨[], List.forall_mem_nil _, rfl, rfl, .inl ⟨e, he, rfl, rfl⟩⟩
    · obtain ⟨texts, houtput, hshown, hall⟩ := hrun.exists_texts
      have hpointee : pointee.HasPrintable :=
        Registry.hasPrintable_of_resolve htypes (elementType_eq_ok_iff.1 htype).1
      have hprintable := hshown.printable htypes hpointee
      refine ⟨texts, hprintable, houtput, ?_, .inr ⟨expression, typeName, vector, pointee, harguments,
        hvector, htype, hshown, hall⟩⟩
      rw [houtput, count_newline_numberedLines hprintable]

/-- A vector of one id, which has a terminal escape, a newline and a quote among its bytes. -/
def escapeTarget : Target where
  memory := (Snapshot.ofBytes 0x1000
    ([0, 0, 1, 0, 0, 0x1030, 0x1038, 0x22FF010A4A325B1B, 0x7F].flatMap wordBytes).toArray).memory
  types := types
  symbols := ∅
  symbolTypes := ∅

theorem printable_display_and_dump_escape :
    escapeTarget.types.HasPrintable ∧ idType.HasPrintable ∧
    display Hierarchy.printers escapeTarget (.atAddress 0x1038 idType) =
      pure "\"\\033[2J\\n\\001\\377\\\"\\177\"" ∧
    Printable "\"\\033[2J\\n\\001\\377\\\"\\177\"" ∧
    commandWord "svector-dump *(SVector*)0x1000 Selva_NodeId" = "svector-dump" ∧
    ∃ texts : List String, (∀ text ∈ texts, Printable text) ∧
      ((Session.mk escapeTarget Hierarchy.printers).execute
        "svector-dump *(SVector*)0x1000 Selva_NodeId").output =
          String.join (texts.mapIdx fun index text ↦ s!"{decimal index}: {text}\n") ∧
      ((Session.mk escapeTarget Hierarchy.printers).execute
        "svector-dump *(SVector*)0x1000 Selva_NodeId").output.toList.count '\n' = texts.length := by
  have hshown : (display Hierarchy.printers escapeTarget (.atAddress 0x1038 idType)).run =
      some (.ok "\"\\033[2J\\n\\001\\377\\\"\\177\"") := by
    decide +kernel
  have hdisplay := Rendering.run_eq_ok_iff.1 hshown
  have hcommand : commandWord "svector-dump *(SVector*)0x1000 Selva_NodeId" = "svector-dump" := by
    decide +kernel
  obtain ⟨htext, hdump⟩ := printable_display_and_dump escapeTarget types_hasPrintable
  obtain ⟨texts, htexts, houtput, hcount, -⟩ := hdump _ hcommand
  exact ⟨types_hasPrintable, by decide, hdisplay, htext _ (by decide) _ hdisplay, hcommand, texts,
    htexts, houtput, hcount⟩

end Session

end MemoryInspector
