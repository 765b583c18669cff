import Mathlib.Data.List.TakeWhile
import MemoryInspector.Proofs.Session.DumpRun
import MemoryInspector.Proofs.Text.Utf8
import MemoryInspector.Script

/-!
# Scripts put together

A script runs line by line. Behind lines of which each comes to an end and none quits it goes on as it
would on its own, and behind a line that quits or never ends nothing is read any more. A line that is
not UTF-8 ends it with an error, after what the lines before it have written.
-/

namespace MemoryInspector

open Hierarchy Text

/-! ## Bytes of lines -/

theorem nextLine?_newline {bytes : List UInt8} (h : 10 ∉ bytes) (rest : List UInt8) :
    nextLine? (bytes ++ 10 :: rest) =
      some (if bytes.getLast? = some 13 then bytes.dropLast else bytes, rest) := by
  have hbytes : ∀ b ∈ bytes, (b != 10) = true := fun b hb ↦
    bne_iff_ne.2 fun hnewline ↦ h (hnewline ▸ hb)
  rw [nextLine?, if_neg (by simp), List.takeWhile_append_of_pos hbytes,
    List.dropWhile_append_of_pos hbytes, List.takeWhile_cons_of_neg (by decide),
    List.dropWhile_cons_of_neg (by decide), List.append_nil]

/-- What comes after the last newline is a line if there is something. -/
theorem nextLine?_last {bytes : List UInt8} (hne : bytes ≠ []) (h : 10 ∉ bytes) :
    nextLine? bytes = some (bytes, []) := by
  have hbytes : ∀ b ∈ bytes, (b != 10) = true := fun b hb ↦
    bne_iff_ne.2 fun hnewline ↦ h (hnewline ▸ hb)
  rw [nextLine?, if_neg (by simpa using hne), List.takeWhile_eq_self_iff.2 hbytes,
    List.dropWhile_eq_nil_iff.2 hbytes]

theorem newline_not_mem_utf8 {line : String} (h : '\n' ∉ line.toList) : 10 ∉ utf8 line :=
  fun hmem ↦ h (mem_toList_of_mem_utf8 (by decide) hmem)

/-- A line of a text is read back, a carriage return at its end apart. -/
theorem nextLine?_utf8 {line : String} (h : '\n' ∉ line.toList) (rest : List UInt8) :
    ∃ shown, nextLine? (utf8 line ++ 10 :: rest) = some (utf8 shown, rest) ∧
      (line = shown ∨ line = shown ++ "\r") := by
  rw [nextLine?_newline (newline_not_mem_utf8 h)]
  split
  · next hlast =>
    obtain ⟨front, rfl⟩ := eq_append_of_getLast?_utf8 (by decide) hlast
    refine ⟨front, ?_, .inr rfl⟩
    have hreturn : utf8 (String.singleton (Char.ofNat (13 : UInt8).toNat)) = [13] := by decide
    rw [utf8_append, hreturn, List.dropLast_concat]
  · exact ⟨line, rfl, .inl rfl⟩

theorem ScriptRun.andThen_andThen (first second : String) (run : ScriptRun) :
    (run.andThen second).andThen first = run.andThen (first ++ second) := by
  rw [ScriptRun.andThen, ScriptRun.andThen, ScriptRun.andThen, String.append_assoc]

@[simp]
theorem ScriptRun.outcome_andThen (output : String) (run : ScriptRun) :
    (run.andThen output).outcome = run.outcome := rfl

@[simp]
theorem ScriptRun.output_andThen (output : String) (run : ScriptRun) :
    (run.andThen output).output = output ++ run.output := rfl

namespace Session

variable {session : Session} {line : String} {rest : List UInt8}

/-! ## Commands -/

/-- The command of the line ends a script. -/
def Quits (line : String) : Prop := commandWord line = "quit" ∨ commandWord line = "exit"

instance (line : String) : Decidable (Quits line) := inferInstanceAs (Decidable (_ ∨ _))

/-- The command of the line comes to an end, be it with a failure. -/
def Completes (session : Session) (line : String) : Prop := (session.execute line).outcome ≠ none

/-- A script goes on behind the line. -/
def GoesOn (session : Session) (line : String) : Prop := (session.respond line).2 = some .proceed

instance (line : String) : Decidable (session.GoesOn line) := inferInstanceAs (Decidable (_ = _))

theorem print_ends (h : ∀ value, display session.printers session.target value ≠ Rendering.outOfDepth)
    (expression : String) : session.print expression ≠ Rendering.outOfDepth := by
  unfold print
  split
  · exact Rendering.throw_ne_outOfDepth _
  · exact Rendering.liftM_bind_ne_outOfDepth fun value _ ↦ h value

theorem dump_ends (h : ∀ value, display session.printers session.target value ≠ Rendering.outOfDepth)
    (vector : VectorView) (typeName : String) :
    (dump session.printers session.target vector typeName).2 ≠ Rendering.outOfDepth := by
  unfold dump
  cases elementType session.target.types typeName with
  | error e => exact Rendering.throw_ne_outOfDepth e
  | ok pointee =>
    dsimp only
    cases vector.slots session.target pointee with
    | error e => exact Rendering.throw_ne_outOfDepth e
    | ok slots =>
      intro hendless
      obtain ⟨slot, -, hslot⟩ := (enumerates_dumpSlots _ slots).endless_iff.1 hendless
      refine Rendering.liftM_bind_ne_outOfDepth (fun element _ ↦ ?_) hslot
      unfold ElementKind.render
      split
      · exact Option.some_ne_none _
      · exact h element
      · exact h element

/-- Only displays without end keep a command from coming to an end. -/
theorem completes_of_displays_end
    (h : ∀ value, display session.printers session.target value ≠ Rendering.outOfDepth)
    (line : String) : session.Completes line := by
  unfold Completes execute
  dsimp only
  split
  · exact Option.some_ne_none _
  iterate 2
    · rw [outcome_printLine, ne_eq, outcomeOf_eq_none_iff, Rendering.run_eq_none_iff]
      exact print_ends h _
  · unfold dumpVector
    split
    · exact Option.some_ne_none _
    · rw [ne_eq, outcomeOf_eq_none_iff, Rendering.run_eq_none_iff]
      exact dump_ends h _ _
  all_goals exact Option.some_ne_none _

theorem execute_of_quits (h : Quits line) : session.execute line = ⟨"", some (.ok .quit)⟩ := by
  rcases h with h | h
  all_goals
    have hcommand : String.ofList (splitFirstBlank (trim line.toList)).1 = _ := h
    simp only [execute, hcommand]

theorem dumpVector_ne_quit (arguments : String) :
    (session.dumpVector arguments).outcome ≠ some (.ok .quit) := by
  unfold dumpVector
  split
  · exact nofun
  · exact outcomeOf_ne_quit

/-- No other command ends a script. -/
theorem quits_of_outcome (h : (session.execute line).outcome = some (.ok .quit)) : Quits line := by
  unfold execute at h
  dsimp only at h
  -- the commands in their order, `print` under both of its names
  split at h
  · cases h
  iterate 2
    · rw [outcome_printLine] at h
      exact absurd h outcomeOf_ne_quit
  · exact absurd h (session.dumpVector_ne_quit _)
  · cases h
  · next hquit => exact .inl hquit
  · next hexit => exact .inr hexit
  · cases h

theorem respond_of_quits (h : Quits line) : session.respond line = ("", some .quit) := by
  rw [respond, execute_of_quits h]

theorem respond_of_error {failure : CommandError}
    (h : (session.execute line).outcome = some (.error failure)) : session.respond line =
      ((session.execute line).output ++ s!"Error: {failure.message}\n", some .proceed) := by
  rw [respond, h]

theorem respond_of_not_completes (h : ¬ session.Completes line) :
    session.respond line = ((session.execute line).output, none) := by
  rw [respond, not_not.1 h]

/-- A script goes on behind a line that neither quits nor never ends. -/
theorem goesOn_iff : session.GoesOn line ↔ ¬ Quits line ∧ session.Completes line := by
  unfold GoesOn Completes
  constructor
  · intro h
    constructor
    · intro hquits
      rw [respond_of_quits hquits] at h
      cases h
    · intro hnone
      rw [respond_of_not_completes (not_not.2 hnone)] at h
      cases h
  · rintro ⟨hquits, hcompletes⟩
    rw [respond]
    cases houtcome : (session.execute line).outcome with
    | none => exact absurd houtcome hcompletes
    | some outcome =>
      match outcome with
      | .ok .proceed => rfl
      | .ok .quit => exact absurd (quits_of_outcome houtcome) hquits
      | .error _ => rfl

/-- A carriage return at the end of a line has no part in its command. -/
theorem respond_append_return (session : Session) (line : String) :
    session.respond (line ++ "\r") = session.respond line := by
  have htrim : trim (line ++ "\r").toList = trim line.toList := by
    rw [String.toList_append]
    exact trim_concat (by decide) _
  rw [respond, respond, execute, execute, htrim]

/-! ## Runs -/

/-- What becomes of a script behind a line, if it would go on in some way. -/
def followedBy (session : Session) (line : String) (run : ScriptRun) : ScriptRun :=
  match session.respond line with
  | (output, some .proceed) => run.andThen output
  | (output, some .quit) => ⟨output, some (.ok ())⟩
  | (output, none) => ⟨output, none⟩

theorem followedBy_of_goesOn (h : session.GoesOn line) (run : ScriptRun) :
    session.followedBy line run = run.andThen (session.respond line).1 := by
  have hrespond : session.respond line = ((session.respond line).1, some .proceed) := by
    unfold GoesOn at h
    rw [← h]
  rw [followedBy, hrespond]

/-- Behind a line where a script does not go on, the rest makes no difference. -/
theorem followedBy_of_not_goesOn (h : ¬ session.GoesOn line) (run other : ScriptRun) :
    session.followedBy line run = session.followedBy line other := by
  unfold followedBy
  split
  · next hrespond => exact absurd (congrArg Prod.snd hrespond) h
  · rfl
  · rfl

/-- One line of a script. -/
theorem run_of_nextLine? {input bytes : List UInt8} (hnext : nextLine? input = some (bytes, rest)) :
    session.run false input =
      match decodeUtf8? bytes with
      | none => ⟨"", some (.error .unreadable)⟩
      | some line => session.followedBy line (session.run false rest) := by
  rw [run]
  split
  · next h =>
    rw [hnext] at h
    cases h
  · next h =>
    rw [hnext] at h
    cases h
    cases decodeUtf8? bytes with
    | none => rfl
    | some line =>
      unfold followedBy
      dsimp only
      generalize session.respond line = response
      obtain ⟨output, outcome⟩ := response
      cases outcome with
      | none => simp only [Bool.false_eq_true, if_false, String.empty_append]
      | some outcome =>
        cases outcome <;> simp only [Bool.false_eq_true, if_false, String.empty_append]

theorem run_nil : session.run false [] = ⟨"", some (.ok ())⟩ := by
  rw [run]
  rfl

/-- A line of a script, and what is left of the script. -/
theorem run_newline (h : '\n' ∉ line.toList) (rest : List UInt8) :
    session.run false (utf8 line ++ 10 :: rest) =
      session.followedBy line (session.run false rest) := by
  obtain ⟨shown, hnext, hline⟩ := nextLine?_utf8 h rest
  -- what is read lacks the carriage return of the line, which is white space to the command
  have hrespond : session.respond line = session.respond shown := by
    rcases hline with rfl | rfl
    · rfl
    · exact respond_append_return session shown
  have hfollowed : session.followedBy line = session.followedBy shown := by
    unfold followedBy
    rw [hrespond]
  rw [run_of_nextLine? hnext, decodeUtf8?_eq_some_iff.2 rfl, hfollowed]

theorem respond_empty : session.respond "" = ("", some .proceed) := rfl

theorem goesOn_empty : session.GoesOn "" := rfl

/-- The run of a script of these lines. -/
def runLines (session : Session) : List String → ScriptRun
  | [] => ⟨"", some (.ok ())⟩
  | line :: rest => session.followedBy line (runLines session rest)

/-- A last line without a newline. -/
theorem run_utf8 (h : '\n' ∉ line.toList) :
    session.run false (utf8 line) = session.runLines [line] := by
  by_cases hline : line = ""
  · rw [hline, utf8_eq_nil_iff.2 rfl, run_nil, runLines, followedBy_of_goesOn goesOn_empty,
      respond_empty]
    rfl
  · have hnext := nextLine?_last (mt utf8_eq_nil_iff.1 hline) (newline_not_mem_utf8 h)
    rw [run_of_nextLine? hnext, decodeUtf8?_eq_some_iff.2 rfl, run_nil]
    rfl

variable {lines : List String}

/-- Lines behind which a script goes on have an outcome, and the others follow. -/
theorem runLines_append (h : ∀ line ∈ lines, session.GoesOn line) (others : List String) :
    session.runLines (lines ++ others) =
      (session.runLines others).andThen (session.runLines lines).output := by
  induction lines with
  | nil => rw [List.nil_append, runLines, ScriptRun.andThen, String.empty_append]
  | cons line rest ih =>
    obtain ⟨hline, hrest⟩ := List.forall_mem_cons.1 h
    rw [List.cons_append, runLines, runLines, followedBy_of_goesOn hline, followedBy_of_goesOn hline,
      ih hrest, ScriptRun.andThen_andThen, ScriptRun.output_andThen]

theorem runLines_append_of_not_goesOn (h : ∃ line ∈ lines, ¬ session.GoesOn line)
    (others : List String) : session.runLines (lines ++ others) = session.runLines lines := by
  induction lines with
  | nil => exact absurd h (by simp)
  | cons line rest ih =>
    rw [List.cons_append, runLines, runLines]
    by_cases hline : session.GoesOn line
    · obtain ⟨other, hother, hstops⟩ := h
      rcases List.mem_cons.1 hother with rfl | hother
      · exact absurd hline hstops
      · rw [ih ⟨other, hother, hstops⟩]
    · exact followedBy_of_not_goesOn hline _ _

/-- Lines that all come to an end are run to the end, or to one that quits. -/
theorem outcome_runLines (h : ∀ line ∈ lines, session.Completes line) :
    (session.runLines lines).outcome = some (.ok ()) := by
  induction lines with
  | nil => rfl
  | cons line rest ih =>
    obtain ⟨hline, hrest⟩ := List.forall_mem_cons.1 h
    by_cases hquits : Quits line
    · rw [runLines, followedBy, respond_of_quits hquits]
    · rw [runLines, followedBy_of_goesOn (goesOn_iff.2 ⟨hquits, hline⟩), ScriptRun.outcome_andThen,
        ih hrest]

/-! ## Runs over lines -/

/-- Behind lines at each of which it goes on, a script goes on with the rest. -/
theorem run_lines (hlines : ∀ line ∈ lines, '\n' ∉ line.toList)
    (h : ∀ line ∈ lines, session.GoesOn line) (rest : List UInt8) :
    session.run false ((lines.flatMap fun line ↦ utf8 line ++ [10]) ++ rest) =
      (session.run false rest).andThen (session.runLines lines).output := by
  induction lines with
  | nil => rw [List.flatMap_nil, List.nil_append, runLines, ScriptRun.andThen, String.empty_append]
  | cons line others ih =>
    obtain ⟨hline, hothers⟩ := List.forall_mem_cons.1 hlines
    obtain ⟨hgoes, hrest⟩ := List.forall_mem_cons.1 h
    rw [List.flatMap_cons, List.append_assoc, List.append_assoc, List.singleton_append,
      run_newline hline, followedBy_of_goesOn hgoes, ih hothers hrest, ScriptRun.andThen_andThen,
      runLines, followedBy_of_goesOn hgoes, ScriptRun.output_andThen]

/-- Behind a line where a script does not go on, nothing is read. -/
theorem run_lines_of_not_goesOn (hlines : ∀ line ∈ lines, '\n' ∉ line.toList)
    (h : ∃ line ∈ lines, ¬ session.GoesOn line) (rest : List UInt8) :
    session.run false ((lines.flatMap fun line ↦ utf8 line ++ [10]) ++ rest) =
      session.runLines lines := by
  induction lines with
  | nil => exact absurd h (by simp)
  | cons line others ih =>
    obtain ⟨hline, hothers⟩ := List.forall_mem_cons.1 hlines
    rw [List.flatMap_cons, List.append_assoc, List.append_assoc, List.singleton_append,
      run_newline hline, runLines]
    by_cases hgoes : session.GoesOn line
    · obtain ⟨other, hother, hstops⟩ := h
      rcases List.mem_cons.1 hother with rfl | hother
      · exact absurd hgoes hstops
      · rw [ih hothers ⟨other, hother, hstops⟩]
    · exact followedBy_of_not_goesOn hgoes _ _

/-- Every text is run line by line. -/
theorem run_text (text : String) :
    session.run false (utf8 text) = session.runLines (Text.lines text) := by
  obtain ⟨parts, last, hlines, hparts, hlast, hbytes⟩ := exists_lines text
  rw [hbytes, hlines]
  by_cases hgoes : ∃ line ∈ parts, ¬ session.GoesOn line
  · rw [run_lines_of_not_goesOn hparts hgoes, runLines_append_of_not_goesOn hgoes]
  · push Not at hgoes
    rw [run_lines hparts hgoes, runLines_append hgoes, run_utf8 hlast]

variable {text : String}

/-- Behind a terminated text of which no line quits or never ends, a script goes on with the rest. -/
theorem run_append_bytes (session : Session) (htext : Terminated text)
    (h : ∀ line ∈ Text.lines text, session.GoesOn line) (rest : List UInt8) :
    session.run false (utf8 text ++ rest) =
      (session.run false rest).andThen (session.run false (utf8 text)).output := by
  obtain ⟨parts, hlines, hparts, hbytes⟩ := htext.exists_lines
  rw [hlines] at h
  have hgoes := (List.forall_mem_append.1 h).1
  have hempty : session.runLines [""] = ⟨"", some (.ok ())⟩ := rfl
  rw [run_text, hlines, hbytes, run_lines hparts hgoes, runLines_append hgoes, hempty]
  simp only [ScriptRun.andThen, String.append_empty]

/-- Behind a terminated text with a line that quits or never ends, nothing is read. -/
theorem run_append_bytes_of_not_goesOn (htext : Terminated text)
    (h : ∃ line ∈ Text.lines text, ¬ session.GoesOn line) (rest : List UInt8) :
    session.run false (utf8 text ++ rest) = session.run false (utf8 text) := by
  obtain ⟨parts, hlines, hparts, hbytes⟩ := htext.exists_lines
  have hstops : ∃ line ∈ parts, ¬ session.GoesOn line := by
    obtain ⟨line, hmem, hstops⟩ := h
    rw [hlines] at hmem
    rcases List.mem_append.1 hmem with hmem | hmem
    · exact ⟨line, hmem, hstops⟩
    · rw [List.mem_singleton.1 hmem] at hstops
      exact absurd goesOn_empty hstops
  rw [run_text, hlines, hbytes, run_lines_of_not_goesOn hparts hstops,
    runLines_append_of_not_goesOn hstops]

/-! ## Lines that are not UTF-8 -/

theorem decodeUtf8?_dropLast {bytes : List UInt8} (hbytes : decodeUtf8? bytes = none)
    (hlast : bytes.getLast? = some 13) : decodeUtf8? bytes.dropLast = none := by
  rw [Option.eq_none_iff_forall_ne_some] at hbytes ⊢
  intro front hfront
  apply hbytes (front ++ "\r")
  rw [decodeUtf8?_eq_some_iff] at hfront ⊢
  rw [utf8_append, ← hfront]
  exact (List.dropLast_append_getLast? 13 hlast).symm

/-- A line that is not UTF-8 ends a script, whatever comes after it. -/
theorem run_not_utf8 (session : Session) {bytes : List UInt8} (hnewline : 10 ∉ bytes)
    (hbytes : decodeUtf8? bytes = none) :
    session.run false bytes = ⟨"", some (.error .unreadable)⟩ ∧
      ∀ rest, session.run false (bytes ++ 10 :: rest) = ⟨"", some (.error .unreadable)⟩ := by
  constructor
  · have hne : bytes ≠ [] := by
      rintro rfl
      cases hbytes
    rw [run_of_nextLine? (nextLine?_last hne hnewline), hbytes]
  · intro rest
    have hline : decodeUtf8? (if bytes.getLast? = some 13 then bytes.dropLast else bytes) = none := by
      split
      · next hlast => exact decodeUtf8?_dropLast hbytes hlast
      · exact hbytes
    rw [run_of_nextLine? (nextLine?_newline hnewline rest), hline]

/-! ## Scripts in parts -/

/-- A command that fails adds one line about its failure to what it has written. -/
theorem run_append_of_error (session : Session) (htext : Terminated text)
    (h : ∀ line ∈ Text.lines text, session.GoesOn line) {failure : CommandError}
    (hnewline : '\n' ∉ line.toList) (hfailure : (session.execute line).outcome = some (.error failure))
    (second : String) :
    (session.run false (utf8 (text ++ line))).output =
      (session.run false (utf8 text)).output ++ (session.execute line).output ++
        s!"Error: {failure.message}\n" ∧
    (session.run false (utf8 (text ++ line ++ "\n" ++ second))).output =
      (session.run false (utf8 text)).output ++ (session.execute line).output ++
        s!"Error: {failure.message}\n" ++ (session.run false (utf8 second)).output := by
  have hrun := run_append_bytes session htext h
  have hline := respond_of_error hfailure
  have hgoes : session.GoesOn line := congrArg Prod.snd hline
  constructor
  · rw [utf8_append, hrun, run_utf8 hnewline, runLines, followedBy_of_goesOn hgoes, hline]
    simp only [ScriptRun.andThen, runLines, String.append_empty, String.append_assoc]
  · have hbytes : utf8 (text ++ line ++ "\n" ++ second) =
        utf8 text ++ (utf8 line ++ 10 :: utf8 second) := by
      simp only [utf8_append, List.append_assoc]
      rfl
    rw [hbytes, hrun, run_newline hnewline, followedBy_of_goesOn hgoes, hline]
    simp only [ScriptRun.andThen, String.append_assoc]

/-- A script in two parts, of which the first is terminated and each of its lines comes to an end, writes
what the parts write, unless a line of the first part quits: then the second part has no part in it. A
command that fails adds one line about its failure to what it has written, and a line that is not UTF-8
ends the script with an error after the output of the lines before it. A line of the first part that
never ends is the last one that is run. All lines come to an end if all displays do. -/
theorem run_script_append (session : Session) (first second : String) (hfirst : Terminated first) :
    ((∀ line ∈ Text.lines first, ¬ Quits line) →
      (∀ line ∈ Text.lines first, session.Completes line) →
      (session.run false (utf8 (first ++ second)) =
          ⟨(session.run false (utf8 first)).output ++ (session.run false (utf8 second)).output,
            (session.run false (utf8 second)).outcome⟩ ∧
        ((∀ line ∈ Text.lines second, session.Completes line) →
          (session.run false (utf8 second)).outcome = some (.ok ()))) ∧
      (∀ line failure, '\n' ∉ line.toList → (session.execute line).outcome = some (.error failure) →
        (session.run false (utf8 (first ++ line))).output =
          (session.run false (utf8 first)).output ++ (session.execute line).output ++
            s!"Error: {failure.message}\n" ∧
        (session.run false (utf8 (first ++ line ++ "\n" ++ second))).output =
          (session.run false (utf8 first)).output ++ (session.execute line).output ++
            s!"Error: {failure.message}\n" ++ (session.run false (utf8 second)).output) ∧
      ∀ bytes, 10 ∉ bytes → decodeUtf8? bytes = none →
        session.run false (utf8 first ++ bytes) =
          ⟨(session.run false (utf8 first)).output, some (.error .unreadable)⟩ ∧
        ∀ rest, session.run false (utf8 first ++ bytes ++ 10 :: rest) =
          ⟨(session.run false (utf8 first)).output, some (.error .unreadable)⟩) ∧
    ((∃ line ∈ Text.lines first, Quits line ∨ ¬ session.Completes line) →
      session.run false (utf8 (first ++ second)) = session.run false (utf8 first)) ∧
    ((∀ value, display session.printers session.target value ≠ Rendering.outOfDepth) →
      ∀ line, session.Completes line) := by
  refine ⟨?_, ?_, completes_of_displays_end⟩
  · intro hquits hcompletes
    have hgoes : ∀ line ∈ Text.lines first, session.GoesOn line :=
      fun line hline ↦ goesOn_iff.2 ⟨hquits line hline, hcompletes line hline⟩
    have hrun := run_append_bytes session hfirst hgoes
    refine ⟨⟨?_, ?_⟩, ?_, ?_⟩
    · rw [utf8_append, hrun, ScriptRun.andThen]
    · intro hsecond
      rw [run_text second, outcome_runLines hsecond]
    · intro line failure hnewline hfailure
      exact run_append_of_error session hfirst hgoes hnewline hfailure second
    · intro bytes hnewline hbytes
      obtain ⟨hlast, hmore⟩ := run_not_utf8 session hnewline hbytes
      constructor
      · rw [hrun, hlast, ScriptRun.andThen, String.append_empty]
      · intro rest
        rw [List.append_assoc, hrun, hmore, ScriptRun.andThen, String.append_empty]
  · rintro ⟨line, hline, hstops⟩
    have hgoes : ¬ session.GoesOn line := by
      rw [goesOn_iff, not_and_or, not_not]
      exact hstops
    rw [utf8_append, run_append_bytes_of_not_goesOn hfirst ⟨line, hline, hgoes⟩]

/-- A dump that fails behind its first line, a line without a command, a line that quits, and a byte
that starts no character. -/
theorem run_script_append_threeInt :
    Terminated "svector-dump *(SVector*)0x1000 int\r\n\n" ∧ Terminated " quit now\n" ∧
    threeIntSession.run false
      (utf8 ("svector-dump *(SVector*)0x1000 int\r\n\n" ++ " quit now\nhelp")) =
        ⟨"0: 7\nError: Cannot access memory at address 0x9000 (4 bytes)\n", some (.ok ())⟩ ∧
    threeIntSession.run false (utf8 "svector-dump *(SVector*)0x1000 int\r\n\n" ++ [0xFF]) =
        ⟨"0: 7\nError: Cannot access memory at address 0x9000 (4 bytes)\n",
          some (.error .unreadable)⟩ ∧
    threeIntSession.run false (utf8 (" quit now\n" ++ "help")) =
      threeIntSession.run false (utf8 " quit now\n") := by
  have hdump : Terminated "svector-dump *(SVector*)0x1000 int\r\n\n" :=
    .inr ⟨"svector-dump *(SVector*)0x1000 int\r\n", by decide⟩
  have hquit : Terminated " quit now\n" := .inr ⟨" quit now", by decide⟩
  have hgoes : ∀ line ∈ Text.lines "svector-dump *(SVector*)0x1000 int\r\n\n",
      threeIntSession.GoesOn line := by
    decide +kernel
  have houtput : (threeIntSession.run false (utf8 "svector-dump *(SVector*)0x1000 int\r\n\n")).output =
      "0: 7\nError: Cannot access memory at address 0x9000 (4 bytes)\n" := by
    rw [run_text]
    decide +kernel
  have hnothing : (threeIntSession.run false (utf8 " quit now\nhelp")).output = "" := by
    rw [run_text]
    decide +kernel
  have hcompletes : ∀ line ∈ Text.lines " quit now\nhelp", threeIntSession.Completes line := by
    unfold Completes
    decide +kernel
  obtain ⟨⟨hparts, houtcome⟩, -, hbytes⟩ :=
    (run_script_append threeIntSession _ " quit now\nhelp" hdump).1
      (fun line hline ↦ (goesOn_iff.1 (hgoes line hline)).1)
      (fun line hline ↦ (goesOn_iff.1 (hgoes line hline)).2)
  rw [houtput, hnothing, houtcome hcompletes, String.append_empty] at hparts
  rw [houtput] at hbytes
  have hstops : ∃ line ∈ Text.lines " quit now\n", Quits line := by decide +kernel
  obtain ⟨line, hline, hquits⟩ := hstops
  exact ⟨hdump, hquit, hparts, (hbytes [0xFF] (by decide) (by decide +kernel)).1,
    (run_script_append threeIntSession _ "help" hquit).2.1 ⟨line, hline, .inl hquits⟩⟩

theorem print_nestedSession : nestedSession.print "*(loop *)0x1000" = Rendering.outOfDepth := by
  have hvalue : nestedSession.target.evaluate "*(loop *)0x1000" =
      .ok (.atAddress 0x1000 (.record "loop")) := by
    decide +kernel
  rw [print, if_neg (by decide), hvalue, Rendering.liftM_ok, pure_bind, display_nestedSession]

theorem execute_print_nestedSession :
    nestedSession.execute "print *(loop *)0x1000" = ⟨"", none⟩ := by
  have hline : "print *(loop *)0x1000" = "print" ++ " " ++ "*(loop *)0x1000" := by decide
  have htrim : String.ofList (trim "*(loop *)0x1000".toList) = "*(loop *)0x1000" := by decide +kernel
  rw [hline, execute_print (by decide) (by simp [NoBlankEnd]; decide), htrim, printLine,
    print_nestedSession]
  rfl

theorem run_help (session : Session) :
    session.run false (utf8 "help\n") = ⟨helpText ++ "\n", some (.ok ())⟩ := by
  have hrespond : session.respond "help" = (helpText ++ "\n", some .proceed) := rfl
  have hlines : Text.lines "help\n" = ["help", ""] := by decide +kernel
  have hempty : session.runLines [""] = ⟨"", some (.ok ())⟩ := rfl
  rw [run_text, hlines, runLines, followedBy, hrespond, hempty]
  dsimp only
  rw [ScriptRun.andThen, String.append_empty]

/-- No line of the first part quits, but one of them never ends, so the second part, which writes
something on its own, is not run. -/
theorem run_script_append_endless_loop :
    Terminated "print *(loop *)0x1000\n" ∧
    (∀ line ∈ Text.lines "print *(loop *)0x1000\n", ¬ Quits line) ∧
    nestedSession.run false (utf8 "print *(loop *)0x1000\n") = ⟨"", none⟩ ∧
    nestedSession.run false (utf8 "help\n") = ⟨helpText ++ "\n", some (.ok ())⟩ ∧
    nestedSession.run false (utf8 ("print *(loop *)0x1000\n" ++ "help\n")) = ⟨"", none⟩ ∧
    (nestedSession.run false (utf8 ("print *(loop *)0x1000\n" ++ "help\n"))).output ≠
      (nestedSession.run false (utf8 "print *(loop *)0x1000\n")).output ++
        (nestedSession.run false (utf8 "help\n")).output := by
  have hfirst : Terminated "print *(loop *)0x1000\n" := .inr ⟨"print *(loop *)0x1000", by decide⟩
  have hquits : ∀ line ∈ Text.lines "print *(loop *)0x1000\n", ¬ Quits line := by decide +kernel
  have hlines : Text.lines "print *(loop *)0x1000\n" = ["print *(loop *)0x1000", ""] := by
    decide +kernel
  have hendless : ¬ nestedSession.Completes "print *(loop *)0x1000" := by
    rw [Completes, execute_print_nestedSession, not_not]
  have hrun : nestedSession.run false (utf8 "print *(loop *)0x1000\n") = ⟨"", none⟩ := by
    rw [run_text, hlines, runLines, followedBy, respond_of_not_completes hendless,
      execute_print_nestedSession]
  have hstops : ∃ line ∈ Text.lines "print *(loop *)0x1000\n", ¬ nestedSession.GoesOn line :=
    ⟨_, hlines ▸ List.mem_cons_self, fun hgoes ↦ hendless (goesOn_iff.1 hgoes).2⟩
  have hboth : nestedSession.run false (utf8 ("print *(loop *)0x1000\n" ++ "help\n")) =
      ⟨"", none⟩ := by
    rw [utf8_append, run_append_bytes_of_not_goesOn hfirst hstops, hrun]
  refine ⟨hfirst, hquits, hrun, run_help _, hboth, ?_⟩
  rw [hboth, hrun, run_help]
  decide +kernel

end Session

end MemoryInspector
