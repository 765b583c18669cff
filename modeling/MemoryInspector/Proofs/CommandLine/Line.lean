import MemoryInspector.CommandLine.Invocation
import MemoryInspector.Hierarchy.Node
import MemoryInspector.Memory.Snapshot
import MemoryInspector.Proofs.Session.Command
import MemoryInspector.Proofs.Text.ShellWords

/-!
# The line of a dump

A dump that is asked for on the command line of the program is executed as one line of a session. The
line is trimmed, cut at its first white space and split into words, and the arguments come through all
of this, as long as trimming takes nothing from the last one.
-/

namespace MemoryInspector

open Text Session

namespace Text.ShellWords

/-! ## Ends of quoted words -/

theorem exists_quoted (text : List Char) : ∃ front, quoted text = front ++ ['\''] := by
  induction text with
  | nil => exact ⟨[], rfl⟩
  | cons c more ih =>
    obtain ⟨front, hfront⟩ := ih
    rw [quoted, hfront]
    split
    · exact ⟨'\'' :: '\\' :: '\'' :: '\'' :: front, rfl⟩
    · exact ⟨c :: front, rfl⟩

/-- The quotes stand at the end, or there are none. -/
theorem noBlankEnd_quote {word : String} (h : NoBlankEnd word.toList) :
    NoBlankEnd (quote word).toList := by
  unfold quote
  split
  · obtain ⟨front, hfront⟩ := exists_quoted word.toList
    have hquote : NoBlankEnd ['\''] := by
      rintro c ⟨⟩
      decide
    rw [String.toList_ofList, hfront, ← List.cons_append]
    exact noBlankEnd_append_of_ne_nil (List.cons_ne_nil _ _) hquote _
  · exact h

theorem toList_quote_ne_nil (word : String) : (quote word).toList ≠ [] := by
  unfold quote
  split
  · rw [String.toList_ofList]
    exact List.cons_ne_nil _ _
  · next hplain =>
    rw [Bool.or_eq_true, not_or, String.isEmpty_iff] at hplain
    exact mt String.toList_eq_nil_iff.1 hplain.1

end Text.ShellWords

namespace CommandLine

open ShellWords

variable {typeName : String}

theorem dumpArguments_join (expression typeName : String) :
    dumpArguments (join [expression, typeName]) = .ok (expression, typeName) := by
  rw [dumpArguments, split?_join]

/-- Joined arguments, of which the last one is not trimmed. -/
theorem splitFirstBlank_dumpLine (expression : String) (hend : NoBlankEnd typeName.toList) :
    splitFirstBlank (trim ("svector-dump" ++ " " ++ join [expression, typeName]).toList) =
      ("svector-dump".toList, (join [expression, typeName]).toList) := by
  have hjoin : (join [expression, typeName]).toList =
      ((quote expression).toList ++ [' ']) ++ (quote typeName).toList := by
    rw [join_cons_cons, String.toList_append, String.toList_append]
    rfl
  have hlast := toList_quote_ne_nil typeName
  have hend' : NoBlankEnd (join [expression, typeName]).toList := by
    rw [hjoin]
    exact noBlankEnd_append_of_ne_nil hlast (noBlankEnd_quote hend) _
  have hne : (join [expression, typeName]).toList ≠ [] := by
    rw [hjoin]
    exact List.append_ne_nil_of_right_ne_nil _ hlast
  exact splitFirstBlank_trim rfl (by decide) hne hend'

/-- The line of a dump is a dump command with these two arguments, whatever characters they have, if the
last one does not end with white space. So it dumps the vector that the first one denotes as elements of
the type that the second one names, and writes nothing if the first one denotes no vector. -/
theorem execute_line_of_dump (session : Session) (expression typeName : String)
    (hend : NoBlankEnd typeName.toList) :
    ∃ line, (Command.dump expression typeName).line? = some line ∧
      commandWord line = "svector-dump" ∧
      dumpArguments (argumentText line) = .ok (expression, typeName) ∧
      session.execute line = session.dumpVector (argumentText line) ∧
      (∀ e, vectorOf session.target expression = .error e →
        session.execute line = ⟨"", some (.error (.inspect e))⟩) ∧
      ∀ vector, vectorOf session.target expression = .ok vector →
        session.execute line =
          ⟨String.join ((Hierarchy.dump session.printers session.target vector typeName).1.mapIdx
              fun index text ↦ s!"{decimal index}: {text}\n"),
            outcomeOf (Hierarchy.dump session.printers session.target vector typeName).2⟩ := by
  have hsplit := splitFirstBlank_dumpLine expression hend
  have hcommand : commandWord ("svector-dump" ++ " " ++ join [expression, typeName]) =
      "svector-dump" := by
    rw [commandWord, hsplit, String.ofList_toList]
  have harguments : dumpArguments (argumentText ("svector-dump" ++ " " ++ join [expression, typeName])) =
      .ok (expression, typeName) := by
    rw [argumentText, hsplit, String.ofList_toList, dumpArguments_join]
  have hexecute := @execute_of_dump session _ hcommand
  refine ⟨"svector-dump" ++ " " ++ join [expression, typeName], rfl, hcommand, harguments, hexecute,
    fun e hvector ↦ ?_, fun vector hvector ↦ ?_⟩
  · rw [hexecute, dumpVector_of_no_vector harguments hvector]
  · rw [hexecute, dumpVector_of_operands harguments hvector, numberedLines]

/-- A session without memory. -/
def emptySession : Session where
  target := ⟨(Snapshot.ofBytes 0 #[]).memory, Hierarchy.types, ∅, ∅⟩
  printers := Hierarchy.printers

/-- Quotes, a backslash, a newline and white space at the end of the first argument, and an empty last
argument. The first one comes through as it is, and is no expression. -/
theorem execute_line_of_dump_quotes :
    NoBlankEnd "".toList ∧
    ∃ line, (Command.dump "it's \"a\\\n\u3000" "").line? = some line ∧
      commandWord line = "svector-dump" ∧
      dumpArguments (argumentText line) = .ok ("it's \"a\\\n\u3000", "") ∧
      emptySession.execute line = ⟨"", some (.error (.inspect (.invalidArgument 1 "vector expression"
        "Cannot evaluate 'it's \"a\\\n\u3000': unexpected character '''")))⟩ := by
  have hvector : vectorOf emptySession.target "it's \"a\\\n\u3000" = .error (.invalidArgument 1
      "vector expression" "Cannot evaluate 'it's \"a\\\n\u3000': unexpected character '''") := by
    decide +kernel
  obtain ⟨line, hline, hcommand, harguments, -, herror, -⟩ :=
    execute_line_of_dump emptySession "it's \"a\\\n\u3000" "" noBlankEnd_nil
  exact ⟨noBlankEnd_nil, line, hline, hcommand, harguments, herror _ hvector⟩

/-- White space that separates no words is trimmed from the end of the last argument. -/
example : (dumpArguments (argumentText "svector-dump root int\u3000")).toOption =
    some ("root", "int") := by
  decide +kernel

end CommandLine

end MemoryInspector
