import MemoryInspector.Proofs.Hierarchy.Detour
import MemoryInspector.Session

/-!
# Commands never want for a place

An expression whose value is not in memory has a scalar or a pointer as its value, without bits beyond
the type. Printing it and dumping a vector from it meet no operation that fails for want of a place:
commands have the same outcome whatever such operations would result in.
-/

namespace MemoryInspector

open Text Hierarchy Expression

namespace Hierarchy.Detour

variable (detour : Detour) (target : Target)

/-- Printing with detours. -/
def print (expression : String) : Rendering String :=
  if expression.isEmpty then throw (.invalidArgument 1 "expression" "missing expression")
  else do
    let value ← detour.evaluate target expression
    detour.display target value

def vectorOf (expression : String) : Except InspectError VectorView :=
  match detour.evaluate target expression >>= VectorView.ofValue target with
  | .ok vector => .ok vector
  | .error e => .error (.invalidArgument 1 "vector expression" e.message)

/-- Dumping with detours. -/
def dumpVector (arguments : String) : Execution :=
  match (do
    let (expression, typeName) ← Session.dumpArguments arguments
    let vector ← detour.vectorOf target expression
    pure (vector, typeName)) with
  | .error e => ⟨"", some (.error (.inspect e))⟩
  | .ok (vector, typeName) =>
    let (texts, ending) := detour.dump target vector typeName
    ⟨String.join (Session.dumpLines texts), Session.outcomeOf ending⟩

theorem isPlaced_of_evaluate {target : Target} {text : String} {value : Value}
    (h : target.evaluate text = .ok value) : value.IsPlaced := by
  obtain ⟨_, -, hdenotes⟩ := Target.evaluate_eq_ok_iff.1 h
  exact hdenotes.isPlaced

theorem isPlaced_of_vectorOf {target : Target} {expression : String} {vector : VectorView}
    (h : Session.vectorOf target expression = .ok vector) : vector.record.IsPlaced := by
  unfold Session.vectorOf at h
  split at h
  · next found hfound =>
    cases h
    obtain ⟨value, hvalue, hvector⟩ := Except.bind_eq_ok_iff.1 hfound
    exact isPlaced_of_vector (isPlaced_of_evaluate hvalue) hvector
  · cases h

theorem print_eq (expression : String) :
    detour.print target expression = Session.print ⟨target, Hierarchy.printers⟩ expression := by
  rw [print, Session.print, evaluate_eq]
  split
  · rfl
  · refine Rendering.liftM_bind_congr fun value hvalue ↦ ?_
    exact display_eq detour target value (isPlaced_of_evaluate hvalue)

theorem dumpVector_eq (arguments : String) :
    detour.dumpVector target arguments = Session.dumpVector ⟨target, Hierarchy.printers⟩ arguments := by
  have hvectorOf : detour.vectorOf target = Session.vectorOf target := by
    funext expression
    rw [vectorOf, evaluate_eq]
    rfl
  rw [dumpVector, Session.dumpVector, hvectorOf]
  cases harguments : (do
      let (expression, typeName) ← Session.dumpArguments arguments
      let vector ← Session.vectorOf target expression
      pure (vector, typeName) : Except InspectError (VectorView × String)) with
  | error e => rfl
  | ok result =>
    obtain ⟨⟨expression, typeName⟩, -, hrest⟩ := Except.bind_eq_ok_iff.1 harguments
    obtain ⟨vector, hvector, ⟨⟩⟩ := Except.bind_eq_ok_iff.1 hrest
    dsimp only
    rw [dump_eq (isPlaced_of_vectorOf hvector)]

end Hierarchy.Detour

/-- A value without a place is a scalar or a pointer with no more bits than its type has, which reading
it gives back. Detours take the place of all operations on other values without a place, and make no
difference to what is printed or dumped. -/
theorem immediate_is_word :
    (∀ (target : Target) (text : String) (bits : UInt64) (type : CType),
      target.evaluate text = .ok (.ofBits bits type) →
        ((∃ pointee, type = .pointer pointee) ∨
          ∃ kind, type = .scalar kind ∧ (kind.size < 8 → bits.toNat < 2 ^ (8 * kind.size))) ∧
        target.readBits (.ofBits bits type) = .ok bits) ∧
    (∀ (detour : Detour) (target : Target) (value : Value), value.address? = none → ¬ value.type.IsWord →
      (∀ usual, detour.guard value usual = detour.value value) ∧
      (∀ name, detour.field target value name = detour.value value) ∧
      detour.nodeOf target value = detour.node value ∧
      ∀ display, detour.nativeForm target display value = detour.text value) ∧
    ∀ (detour : Detour) (target : Target) (arguments : String),
      detour.print target arguments = Session.print ⟨target, printers⟩ arguments ∧
      detour.dumpVector target arguments = Session.dumpVector ⟨target, printers⟩ arguments := by
  refine ⟨?_, ?_, ?_⟩
  · intro target text bits type hvalue
    have hword := Target.isWholeWord_of_evaluate hvalue
    refine ⟨?_, readBits_of_isWholeWord hword⟩
    cases hword with
    | pointer => exact .inl ⟨_, rfl⟩
    | scalar hlt =>
      refine .inr ⟨_, rfl, fun _ ↦ ?_⟩
      rwa [Nat.pow_mul]
  · intro detour target value haddress htype
    have hplace : ¬ value.IsPlaced := by
      rw [Value.isPlaced_iff_isSome htype, haddress]
      exact Bool.false_ne_true
    exact ⟨fun _ ↦ if_neg hplace, fun _ ↦ if_neg hplace, if_neg hplace, fun _ ↦ if_neg hplace⟩
  · intro detour target arguments
    exact ⟨detour.print_eq target arguments, detour.dumpVector_eq target arguments⟩

/-- Whatever goes astray is endless. -/
def astray : Detour :=
  ⟨fun _ ↦ .error (.unknownName "astray"), fun _ ↦ .error (.unknownName "astray"),
    fun _ ↦ Rendering.outOfDepth⟩

/-- A negative number in two bytes. No expression denotes a record without a place. -/
theorem immediate_is_word_short :
    Target.minusTwo.evaluate "(short)*(int *)0x1000" = .ok (.ofBits 0xfffe (.scalar .int16)) ∧
    (0xfffe : UInt64).toNat < 2 ^ (8 * Scalar.int16.size) ∧
    Target.minusTwo.readBits (.ofBits 0xfffe (.scalar .int16)) = .ok 0xfffe ∧
    astray.field Target.minusTwo (.ofBits 0xfffe (.record vectorType)) "vec_arr" =
      .error (.unknownName "astray") ∧
    astray.print Target.minusTwo "(short)*(int *)0x1000" = pure "-2" := by
  have hvalue : Target.minusTwo.evaluate "(short)*(int *)0x1000" =
      .ok (.ofBits 0xfffe (.scalar .int16)) := by
    decide +kernel
  obtain ⟨hword, hdetour, hcommand⟩ := immediate_is_word
  obtain ⟨htype, hread⟩ := hword _ _ _ _ hvalue
  obtain ⟨-, hfield, -⟩ :=
    hdetour astray Target.minusTwo (.ofBits 0xfffe (.record vectorType)) rfl id
  obtain ⟨pointee, ⟨⟩⟩ | ⟨kind, ⟨⟩, hbits⟩ := htype
  refine ⟨hvalue, hbits (by decide), hread, hfield "vec_arr", ?_⟩
  have htext : (Session.print ⟨Target.minusTwo, printers⟩ "(short)*(int *)0x1000").run =
      some (.ok "-2") := by
    decide +kernel
  rw [(hcommand astray Target.minusTwo _).1]
  exact Rendering.run_eq_ok_iff.1 htext

end MemoryInspector
