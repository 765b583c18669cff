import MemoryInspector.Proofs.Expression.Evaluation
import MemoryInspector.Proofs.Target.Extension

/-!
# Expressions in an extended memory

The value of an expression in one memory is its value in a memory that extends it, by induction on
the rules that give the value.
-/

namespace MemoryInspector

variable {target : Target} {memory : Memory} {value : Value}

namespace Expression

theorem CastBits.extended {bits : UInt64} (h : target.memory.ExtendedBy memory)
    (hbits : CastBits target value bits) : CastBits (target.withMemory memory) value bits := by
  cases hbits with
  | read hread => exact .read (Target.readBits_extended h hread)
  | decay => exact .decay

theorem ElementsAt.extended {address : UInt64} {element : CType} (h : target.memory.ExtendedBy memory)
    (helements : ElementsAt target value address element) :
    ElementsAt (target.withMemory memory) value address element := by
  cases helements with
  | pointer htype hread => exact .pointer htype (Target.readBits_extended h hread)
  | array => exact .array

theorem Term.Denotes.extended {term : Term} (h : target.memory.ExtendedBy memory)
    (hterm : term.Denotes target value) : term.Denotes (target.withMemory memory) value := by
  induction hterm with
  | integer value => exact .integer value
  | symbol haddress => exact .symbol haddress
  | member _ hlayout hfield ih => exact .member ih hlayout hfield
  | arrow _ htype hread hlayout hfield ih =>
    exact .arrow ih htype (Target.readBits_extended h hread) hlayout hfield
  | subscript _ helements hsize ih => exact .subscript ih (helements.extended h) hsize
  | contentsPointer _ htype hread ih =>
    exact .contentsPointer ih htype (Target.readBits_extended h hread)
  | contentsArray _ hsize ih => exact .contentsArray ih hsize
  | addressOf _ ih => exact .addressOf ih
  | castPointer _ hbits ih => exact .castPointer ih (hbits.extended h)
  | castScalar _ hbits ih => exact .castScalar ih (hbits.extended h)

end Expression

namespace Target

open Expression

theorem evaluate_extended {text : String} (h : target.memory.ExtendedBy memory)
    (hvalue : target.evaluate text = .ok value) :
    (target.withMemory memory).evaluate text = .ok value := by
  obtain ⟨tokens, htokens, hdenotes⟩ := evaluate_eq_ok_iff.1 hvalue
  exact evaluate_eq_ok_iff.2 ⟨tokens, htokens, hdenotes.extended h⟩

end Target

end MemoryInspector
