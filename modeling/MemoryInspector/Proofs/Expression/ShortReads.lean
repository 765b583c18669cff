import MemoryInspector.Expression.Evaluation
import MemoryInspector.Proofs.Target.ShortReads

/-!
# Expressions and short reads

An expression is evaluated with short reads alone, by induction on its term: the pointers that it
follows and the operands of its casts are the only values that are read.
-/

namespace MemoryInspector

variable {target : Target} {memory : Memory}

@[simp]
theorem Expression.memberOf_withMemory (text : String) :
    memberOf (target.withMemory memory) text = memberOf target text := rfl

section

variable (h : target.memory.AgreeOnShort memory)
include h

namespace Expression

theorem elementAt_of_agreeOnShort (text : String) :
    elementAt (target.withMemory memory) text = elementAt target text := by
  funext value index
  unfold elementAt
  rw [Target.readBits_of_agreeOnShort h, Target.types_withMemory]

theorem contentsOf_of_agreeOnShort (text : String) :
    contentsOf (target.withMemory memory) text = contentsOf target text := by
  funext value
  unfold contentsOf
  rw [Target.dereference_of_agreeOnShort h, elementAt_of_agreeOnShort h]

theorem arrowMember_of_agreeOnShort (text : String) :
    arrowMember (target.withMemory memory) text = arrowMember target text := by
  funext value name
  unfold arrowMember
  rw [Target.dereference_of_agreeOnShort h, memberOf_withMemory]

theorem castTo_of_agreeOnShort (text : String) :
    castTo (target.withMemory memory) text = castTo target text := by
  funext type value
  unfold castTo
  rw [Target.readBits_of_agreeOnShort h]

theorem Term.eval_of_agreeOnShort (text : String) (term : Term) :
    term.eval (target.withMemory memory) text = term.eval target text := by
  induction term with
  | integer | symbol | unknownType | fault => rfl
  | member record name ih => rw [eval, eval, ih, memberOf_withMemory]
  | arrow pointer name ih => rw [eval, eval, ih, arrowMember_of_agreeOnShort h]
  | subscript base index ih => rw [eval, eval, ih, elementAt_of_agreeOnShort h]
  | contents operand ih => rw [eval, eval, ih, contentsOf_of_agreeOnShort h]
  | addressOf operand ih => rw [eval, eval, ih]
  | cast type operand ih => rw [eval, eval, ih, castTo_of_agreeOnShort h]
  | faultAfter term reason ih => rw [eval, eval, ih]

end Expression

open Expression

theorem Target.evaluate_of_agreeOnShort : (target.withMemory memory).evaluate = target.evaluate := by
  funext text
  rw [evaluate, evaluate, types_withMemory]
  cases Token.scan text.toList with
  | ok tokens => exact Term.eval_of_agreeOnShort h text _
  | error reason => rfl

end

end MemoryInspector
