import MemoryInspector.Proofs.Expression.ShortReads
import MemoryInspector.Proofs.Hierarchy.Reads
import MemoryInspector.Proofs.Hierarchy.ShortReads
import MemoryInspector.Script

/-!
# Sessions and short reads

Whatever sizes the program, the configuration or the user declares, nothing asks the memory for more
bytes at once than a value may have. So two sessions with memories that agree on short reads cannot be
told apart: each operation has the same result or the same failure, and each script the same output.
-/

namespace MemoryInspector

open Hierarchy

namespace Session

variable {target : Target} {memory : Memory} {printers : Printers}

section

variable (h : target.memory.AgreeOnShort memory) (hprinters : printers.ReadShort)
include h hprinters

theorem print_of_agreeOnShort :
    print ⟨target.withMemory memory, printers⟩ = print ⟨target, printers⟩ := by
  funext expression
  rw [print, print, Target.evaluate_of_agreeOnShort h, display_of_agreeOnShort h hprinters]

theorem printLine_of_agreeOnShort :
    printLine ⟨target.withMemory memory, printers⟩ = printLine ⟨target, printers⟩ := by
  funext expression
  rw [printLine, printLine, print_of_agreeOnShort h hprinters]

theorem dumpVector_of_agreeOnShort :
    dumpVector ⟨target.withMemory memory, printers⟩ = dumpVector ⟨target, printers⟩ := by
  have hvector : vectorOf (target.withMemory memory) = vectorOf target := by
    funext expression
    rw [vectorOf, Target.evaluate_of_agreeOnShort h, VectorView.ofValue_of_agreeOnShort h, vectorOf]
  funext arguments
  rw [dumpVector, dumpVector, hvector, dump_of_agreeOnShort h hprinters]

theorem execute_of_agreeOnShort :
    execute ⟨target.withMemory memory, printers⟩ = execute ⟨target, printers⟩ := by
  funext line
  unfold execute
  rw [printLine_of_agreeOnShort h hprinters, dumpVector_of_agreeOnShort h hprinters]

end

/-- A script goes on line by line as the session responds. -/
theorem run_congr {session other : Session} (h : other.respond = session.respond) (interactive : Bool)
    (input : List UInt8) : other.run interactive input = session.run interactive input := by
  induction hlength : input.length using Nat.strongRecOn generalizing input with
  | ind length ih =>
    rw [run, run]
    split
    · rfl
    · next line rest hnext =>
      have hrest := ih _ (hlength ▸ length_lt_of_nextLine? hnext) rest rfl
      rw [h, hrest]

theorem run_of_agreeOnShort (h : target.memory.AgreeOnShort memory) (hprinters : printers.ReadShort) :
    run ⟨target.withMemory memory, printers⟩ = run ⟨target, printers⟩ := by
  have hrespond : respond ⟨target.withMemory memory, printers⟩ = respond ⟨target, printers⟩ := by
    funext line
    rw [respond, respond, execute_of_agreeOnShort h hprinters]
  funext interactive input
  exact run_congr hrespond interactive input

end Session

/-- What is read, evaluated, shown and dumped does not depend on what the memory answers to reads that
are longer than a value may be, and neither does what a script writes. Printers that are registered may
be any that make do with short reads, as the printer of nodes does for whatever types it is meant. -/
theorem results_of_agreeOnShort (target : Target) (memory : Memory)
    (h : target.memory.AgreeOnShort memory) :
    (target.withMemory memory).evaluate = target.evaluate ∧
    (target.withMemory memory).readBytes = target.readBytes ∧
    (target.withMemory memory).readBits = target.readBits ∧
    (target.withMemory memory).readInteger = target.readInteger ∧
    (target.withMemory memory).dereference = target.dereference ∧
    (target.withMemory memory).readArray = target.readArray ∧
    VectorView.ofValue (target.withMemory memory) = VectorView.ofValue target ∧
    (∀ vector : VectorView,
      vector.data (target.withMemory memory) = vector.data target ∧
      vector.length (target.withMemory memory) = vector.length target ∧
      vector.slots (target.withMemory memory) = vector.slots target) ∧
    (∀ printers : Printers, (∀ registration ∈ printers, registration.print = nodePrinter) →
      printers.ReadShort) ∧
    ∀ printers : Printers, printers.ReadShort →
      display printers (target.withMemory memory) = display printers target ∧
      renderIds (display printers (target.withMemory memory)) (target.withMemory memory) =
        renderIds (display printers target) target ∧
      dump printers (target.withMemory memory) = dump printers target ∧
      Session.run ⟨target.withMemory memory, printers⟩ = Session.run ⟨target, printers⟩ := by
  refine ⟨Target.evaluate_of_agreeOnShort h, Target.readBytes_of_agreeOnShort h,
    Target.readBits_of_agreeOnShort h, Target.readInteger_of_agreeOnShort h,
    Target.dereference_of_agreeOnShort h, Target.readArray_of_agreeOnShort h,
    VectorView.ofValue_of_agreeOnShort h, ?_, fun _ ↦ readShort_of_nodePrinter, ?_⟩
  · intro vector
    exact ⟨VectorView.data_of_agreeOnShort h vector, VectorView.length_of_agreeOnShort h vector,
      VectorView.slots_of_agreeOnShort h vector⟩
  · intro printers hprinters
    have hdisplay := display_of_agreeOnShort h hprinters
    refine ⟨hdisplay, ?_, dump_of_agreeOnShort h hprinters, Session.run_of_agreeOnShort h hprinters⟩
    rw [hdisplay, renderIds_of_agreeOnShort h]

/-- A memory without end in which all bytes are zero. -/
def Memory.zeros : Memory where
  bytes? _ count := some (List.replicate count 0)
  length_bytes? := by
    rintro address count _ ⟨⟩
    exact List.length_replicate
  description := "zeros"

/-- A node with one child, and a string that is a byte too long. No region holds as many bytes as the
string has, but zeros are answered to reads of so many. -/
theorem results_of_agreeOnShort_oneChild :
    oneChildTarget.memory.AgreeOnShort (oneChildTarget.memory.withLongReads .zeros) ∧
    oneChildTarget.memory.bytes? 0x1000 65537 = none ∧
    (oneChildTarget.memory.withLongReads .zeros).bytes? 0x1000 65537 =
      some (List.replicate 65537 0) ∧
    display printers (oneChildTarget.withMemory (oneChildTarget.memory.withLongReads .zeros))
      (.atAddress 0x1000 (.record nodeType)) =
        pure "\x7bid: \"A\", visit_stamp: 1ff, parents: \x7b \x7d, children: \x7b \"B\", \x7d\x7d" ∧
    display printers (oneChildTarget.withMemory (oneChildTarget.memory.withLongReads .zeros))
      (.atAddress 0x1000 (.array (.scalar .char) 65537)) =
        throw (.evaluation "char [65537]"
          "value requires 65537 bytes, more than the 65536 bytes limit") := by
  have h : oneChildTarget.memory.AgreeOnShort (oneChildTarget.memory.withLongReads .zeros) :=
    Memory.agreeOnShort_withLongReads _ _
  obtain ⟨-, -, -, -, -, -, -, -, hnode, hresults⟩ := results_of_agreeOnShort oneChildTarget _ h
  obtain ⟨hdisplay, -⟩ := hresults printers (hnode printers (by simp [printers]))
  have htext : (display printers oneChildTarget (.atAddress 0x1000 (.record nodeType))).run = some (.ok
      "\x7bid: \"A\", visit_stamp: 1ff, parents: \x7b \x7d, children: \x7b \"B\", \x7d\x7d") := by
    decide +kernel
  have hrefused : (display printers oneChildTarget
      (.atAddress 0x1000 (.array (.scalar .char) 65537))).run = some (.error (.evaluation "char [65537]"
        "value requires 65537 bytes, more than the 65536 bytes limit")) := by
    decide +kernel
  refine ⟨h, by decide +kernel, Memory.bytes?_withLongReads (by decide), ?_, ?_⟩
  · rw [hdisplay]
    exact Rendering.run_eq_ok_iff.1 htext
  · rw [hdisplay]
    exact Rendering.run_eq_error_iff.1 hrefused

end MemoryInspector
