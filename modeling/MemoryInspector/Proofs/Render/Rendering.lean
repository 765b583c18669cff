import MemoryInspector.Proofs.Outcome
import MemoryInspector.Render.Display

/-!
# Sequenced renderings

The three outcomes of a rendering, and renderings that succeed one after another.
-/

namespace MemoryInspector.Rendering

variable {α β : Type}

/-! ## The three outcomes -/

@[simp]
theorem throw_inj {e e' : InspectError} : (throw e : Rendering α) = throw e' ↔ e = e' := by
  constructor
  · intro h
    cases Option.some.inj h
    rfl
  · exact congrArg throw

@[simp]
theorem pure_ne_throw (a : α) (e : InspectError) : (pure a : Rendering α) ≠ throw e := by
  intro h
  cases Option.some.inj h

@[simp]
theorem throw_ne_pure (a : α) (e : InspectError) : (throw e : Rendering α) ≠ pure a :=
  (pure_ne_throw a e).symm

@[simp]
theorem pure_ne_outOfDepth (a : α) : (pure a : Rendering α) ≠ outOfDepth := Option.some_ne_none _

@[simp]
theorem outOfDepth_ne_pure (a : α) : (outOfDepth : Rendering α) ≠ pure a := (pure_ne_outOfDepth a).symm

@[simp]
theorem throw_ne_outOfDepth (e : InspectError) : (throw e : Rendering α) ≠ outOfDepth :=
  Option.some_ne_none _

@[simp]
theorem outOfDepth_ne_throw (e : InspectError) : (outOfDepth : Rendering α) ≠ throw e :=
  (throw_ne_outOfDepth e).symm

theorem run_eq_ok_iff {part : Rendering α} {a : α} : part.run = some (.ok a) ↔ part = pure a := Iff.rfl

theorem run_eq_error_iff {part : Rendering α} {e : InspectError} :
    part.run = some (.error e) ↔ part = throw e := Iff.rfl

theorem run_eq_none_iff {part : Rendering α} : part.run = none ↔ part = outOfDepth := Iff.rfl

theorem ne_outOfDepth_iff {part : Rendering α} :
    part ≠ outOfDepth ↔ ∃ outcome, part.run = some outcome := Option.ne_none_iff_exists'

/-! ## Sequences -/

@[simp]
theorem liftM_ok (a : α) : (liftM (Except.ok a : Except InspectError α) : Rendering α) = pure a := rfl

theorem liftM_bind_eq_pure_iff {x : Except InspectError α} {f : α → Rendering β} {b : β} :
    (liftM x >>= f) = pure b ↔ ∃ a, x = .ok a ∧ f a = pure b := by
  cases x with
  | ok a => simp
  | error e =>
    simp only [reduceCtorEq, false_and, exists_false, iff_false]
    intro h
    cases Option.some.inj h

theorem bind_eq_pure_iff {part : Rendering α} {f : α → Rendering β} {b : β} :
    (part >>= f) = pure b ↔ ∃ a, part = pure a ∧ f a = pure b := by
  match part with
  | some (.ok a) =>
    have hbind : ((pure a : Rendering α) >>= f) = f a := pure_bind a f
    constructor
    · intro h
      exact ⟨a, rfl, hbind.symm.trans h⟩
    · rintro ⟨_, ⟨⟩, h⟩
      exact hbind.trans h
  | some (.error e) =>
    constructor
    · intro h
      cases Option.some.inj h
    · rintro ⟨_, ⟨⟩, -⟩
  | none =>
    constructor
    · intro h
      cases h
    · rintro ⟨_, ⟨⟩, -⟩

/-- An inspection itself always comes to an end. -/
theorem liftM_bind_ne_outOfDepth {x : Except InspectError α} {f : α → Rendering β}
    (h : ∀ a, x = .ok a → f a ≠ outOfDepth) : (liftM x >>= f) ≠ outOfDepth := by
  cases x with
  | ok a =>
    rw [liftM_ok, pure_bind]
    exact h a rfl
  | error e => exact throw_ne_outOfDepth e

/-- What follows on an inspection counts only for the result that the inspection has. -/
theorem liftM_bind_congr {x : Except InspectError α} {f g : α → Rendering β}
    (h : ∀ a, x = .ok a → f a = g a) : (liftM x >>= f) = (liftM x >>= g) := by
  cases x with
  | ok a => simpa using h a rfl
  | error e => rfl

end MemoryInspector.Rendering

/-- A printer that is found is a registered one. -/
theorem MemoryInspector.Printers.exists_of_find? {printers : Printers} {type : CType} {print : Printer}
    (h : printers.find? type = some print) : ∃ registration ∈ printers, registration.print = print := by
  obtain ⟨registration, hregistration, rfl⟩ := Option.map_eq_some_iff.1 h
  exact ⟨registration, List.mem_of_find?_eq_some hregistration, rfl⟩

/-- A display goes deeper than types nest. -/
theorem MemoryInspector.exists_display_eq (printers : Printers) (target : Target) (value : Value) :
    ∃ depth, target.types.typeCount value.type ≤ depth ∧
      display printers target value = displayWithin printers target (depth + 1) value := by
  obtain ⟨less, hless⟩ : ∃ less, pointerDepth = less + 1 := ⟨UInt64.size - 1, rfl⟩
  refine ⟨target.types.typeCount value.type + less, Nat.le_add_right _ _, ?_⟩
  rw [display, hless, Nat.add_assoc]
