import MemoryInspector.Proofs.Outcome
import MemoryInspector.Proofs.Text.Blank
import MemoryInspector.Session

/-!
# Command lines

What a session executes for a command line: the command is the text before the first white space.
-/

namespace MemoryInspector

open Text Hierarchy

variable {session : Session} {arguments : String}

theorem Text.splitFirstBlank_append {command rest : List Char} {c : Char}
    (hcommand : ∀ d ∈ command, (!isBlank d) = true) (hc : isBlank c = true) :
    splitFirstBlank (command ++ c :: rest) = (command, rest) := by
  rw [splitFirstBlank, List.takeWhile_append_of_pos hcommand, List.dropWhile_append_of_pos hcommand,
    List.takeWhile_cons_of_neg (by simp [hc]), List.dropWhile_cons_of_neg (by simp [hc])]
  rw [List.append_nil, List.drop_one, List.tail_cons]

/-- A command and its arguments, with one blank between them and none around them. -/
theorem splitFirstBlank_trim {command : String} {c : Char} {name : List Char}
    (hcommand : command.toList = c :: name) (hname : command.toList.all fun d ↦ !isBlank d)
    (hne : arguments.toList ≠ []) (hend : NoBlankEnd arguments.toList) :
    splitFirstBlank (trim (command ++ " " ++ arguments).toList) =
      (command.toList, arguments.toList) := by
  have hline : (command ++ " " ++ arguments).toList = c :: (name ++ ' ' :: arguments.toList) := by
    simp [String.toList_append, hcommand]
  have hname' := List.all_eq_true.1 hname
  have hc : isBlank c = false := by
    have hhead := hname' c (by rw [hcommand]; exact List.mem_cons_self)
    rwa [Bool.not_eq_true'] at hhead
  have hend' : NoBlankEnd (c :: (name ++ ' ' :: arguments.toList)) := by
    have hsplit : c :: (name ++ ' ' :: arguments.toList) = (c :: (name ++ [' '])) ++ arguments.toList := by
      simp
    rw [hsplit]
    exact noBlankEnd_append_of_ne_nil hne hend _
  rw [hline, trim_eq_self hc hend', ← List.cons_append, ← hcommand,
    splitFirstBlank_append hname' (by decide)]

namespace Session

/-- The command of a line, which is the text before its first white space. -/
def commandWord (line : String) : String := String.ofList (splitFirstBlank (trim line.toList)).1

/-- The arguments of a command, unless they are trimmed further. -/
def argumentText (line : String) : String := String.ofList (splitFirstBlank (trim line.toList)).2

theorem execute_of_dump {line : String} (h : commandWord line = "svector-dump") :
    session.execute line = session.dumpVector (argumentText line) := by
  have hcommand : String.ofList (splitFirstBlank (trim line.toList)).1 = "svector-dump" := h
  simp only [execute, hcommand]
  rfl

/-- The lines of texts, numbered from zero. -/
def numberedLines (texts : List String) : String :=
  String.join (texts.mapIdx fun index text ↦ s!"{decimal index}: {text}\n")

theorem join_dumpLines (texts : List String) : String.join (dumpLines texts) = numberedLines texts := by
  rw [dumpLines, numberedLines, List.mapIdx_eq_zipIdx_map]

section Operands

variable {expression typeName : String} (harguments : dumpArguments arguments = .ok (expression, typeName))
include harguments

/-- A dump command whose operands are accepted writes what the dump of the vector shows. -/
theorem dumpVector_of_operands {vector : VectorView}
    (hvector : vectorOf session.target expression = .ok vector) :
    session.dumpVector arguments =
      ⟨numberedLines (dump session.printers session.target vector typeName).1,
        outcomeOf (dump session.printers session.target vector typeName).2⟩ := by
  simp only [dumpVector, harguments, hvector, Except.ok_bind, ← join_dumpLines]
  rfl

/-- A dump command without a vector writes nothing. -/
theorem dumpVector_of_no_vector {e : InspectError}
    (hvector : vectorOf session.target expression = .error e) :
    session.dumpVector arguments = ⟨"", some (.error (.inspect e))⟩ := by
  simp only [dumpVector, harguments, hvector, Except.ok_bind]
  rfl

end Operands

theorem outcome_printLine (expression : String) :
    (session.printLine expression).outcome = outcomeOf (session.print expression) := by
  unfold printLine
  dsimp only
  split <;> rfl

/-! ## Outcomes -/

section Outcomes

variable {α : Type} {rendering : Rendering α}

theorem outcomeOf_eq_proceed_iff :
    outcomeOf rendering = some (.ok .proceed) ↔ ∃ a, rendering.run = some (.ok a) := by
  unfold outcomeOf
  cases rendering.run with
  | none => simp
  | some outcome => cases outcome <;> simp

theorem outcomeOf_eq_error_iff {failure : CommandError} :
    outcomeOf rendering = some (.error failure) ↔
      ∃ e, failure = .inspect e ∧ rendering.run = some (.error e) := by
  unfold outcomeOf
  cases rendering.run with
  | none => simp
  | some outcome => cases outcome <;> simp [eq_comm]

theorem outcomeOf_eq_none_iff : outcomeOf rendering = none ↔ rendering.run = none :=
  Option.map_eq_none_iff

theorem outcomeOf_ne_quit : outcomeOf rendering ≠ some (.ok .quit) := by
  unfold outcomeOf
  cases rendering.run with
  | none => nofun
  | some outcome => cases outcome <;> nofun

end Outcomes

/-! ## Commands with arguments -/

theorem execute_dump (hne : arguments.toList ≠ []) (hend : NoBlankEnd arguments.toList) :
    session.execute ("svector-dump" ++ " " ++ arguments) = session.dumpVector arguments := by
  have hsplit : splitFirstBlank (trim ("svector-dump" ++ " " ++ arguments).toList) =
      ("svector-dump".toList, arguments.toList) := splitFirstBlank_trim rfl (by decide) hne hend
  rw [execute, hsplit]
  simp only [String.ofList_toList]

theorem execute_print (hne : arguments.toList ≠ []) (hend : NoBlankEnd arguments.toList) :
    session.execute ("print" ++ " " ++ arguments) =
      session.printLine (String.ofList (trim arguments.toList)) := by
  have hsplit : splitFirstBlank (trim ("print" ++ " " ++ arguments).toList) =
      ("print".toList, arguments.toList) := splitFirstBlank_trim rfl (by decide) hne hend
  rw [execute, hsplit]
  simp only [String.ofList_toList]

end Session

end MemoryInspector
