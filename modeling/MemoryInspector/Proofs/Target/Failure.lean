import MemoryInspector.Target

/-!
# Failures of an inspection

What reads a target fails because a name is unknown, a subject has no value or memory cannot be
read. It never blames the argument of a command: that is left to the commands.
-/

namespace MemoryInspector

/-- The program cannot be inspected, whatever the arguments of a command are. -/
def InspectError.IsInspection : InspectError → Prop
  | invalidArgument _ _ _ => False
  | unknownName _ | evaluation _ _ | unreadable _ _ => True

/-- An argument of a command is to blame. -/
def InspectError.BlamesArgument (e : InspectError) : Prop :=
  ∃ position which reason, e = .invalidArgument position which reason

/-- If there is a failure, it is one of the inspection. -/
def Inspects {α : Type} (x : Except InspectError α) : Prop := ∀ e, x = .error e → e.IsInspection

namespace Inspects

variable {α β : Type} {x : Except InspectError α} {f : α → Except InspectError β}

theorem ok (a : α) : Inspects (.ok a : Except InspectError α) := nofun

theorem error {e : InspectError} (h : e.IsInspection) : Inspects (.error e : Except InspectError α) := by
  rintro _ ⟨⟩
  exact h

theorem bind (hx : Inspects x) (hf : ∀ a, Inspects (f a)) : Inspects (x >>= f) := by
  cases x with
  | ok a => exact hf a
  | error e => exact error (hx e rfl)

end Inspects

namespace Registry

variable (types : Registry) (type : CType)

theorem inspects_record (name : String) : Inspects (types.record name) := by
  unfold record
  split
  · exact .ok _
  · exact .error trivial

theorem inspects_byteSize : Inspects (types.byteSize type) := by
  induction type with
  | void | scalar | pointer => exact .ok _
  | array element length ih =>
    rw [byteSize]
    apply ih.bind
    intro size
    split
    · exact .ok _
    · exact .error trivial
  | record name => exact (types.inspects_record name).bind fun layout ↦ .ok _

theorem inspects_valueSize : Inspects (types.valueSize type) := by
  rw [valueSize]
  apply (types.inspects_byteSize type).bind
  intro size
  split
  · exact .ok _
  · exact .error trivial

theorem inspects_resolve (text : String) : Inspects (types.resolve text) := by
  unfold resolve
  split
  · exact .ok _
  · exact .error trivial

end Registry

theorem Memory.inspects_read (memory : Memory) (address : UInt64) (count : Nat) :
    Inspects (memory.read address count) := by
  unfold read
  split
  · exact .ok _
  · exact .error trivial

namespace Target

variable (target : Target) (value : Value)

theorem inspects_readBytes : Inspects (target.readBytes value) := by
  apply (target.types.inspects_valueSize value.type).bind
  intro size
  split
  · exact target.memory.inspects_read _ _
  · exact .ok _

theorem inspects_readBits : Inspects (target.readBits value) := by
  unfold readBits
  split
  · exact (target.inspects_readBytes value).bind fun bytes ↦ .ok _
  · exact (target.inspects_readBytes value).bind fun bytes ↦ .ok _
  · exact .error trivial

theorem inspects_readInteger : Inspects (target.readInteger value) := by
  apply (target.inspects_readBits value).bind
  intro bits
  split
  · split <;> exact .ok _
  · exact .ok _

theorem inspects_field (name : String) : Inspects (target.field value name) := by
  unfold field
  split
  · apply (target.types.inspects_record _).bind
    intro layout
    split
    · exact .ok _
    · exact .error trivial
  · exact .error trivial

theorem inspects_dereference : Inspects (target.dereference value) := by
  unfold dereference
  split
  · exact (target.inspects_readBits value).bind fun address ↦ .ok _
  · exact .error trivial

theorem inspects_elementError? {address : UInt64} {size count index : Nat} {e : InspectError}
    (h : target.elementError? address size count index = some e) : e.IsInspection := by
  simp only [elementError?] at h
  split at h
  · split at h
    · cases h
    · cases h
      trivial
  · cases h
    trivial

theorem inspects_firstElementError? {address : UInt64} {size count first remaining : Nat}
    {e : InspectError} (h : target.firstElementError? address size count first remaining = some e) :
    e.IsInspection := by
  induction remaining generalizing first with
  | zero => cases h
  | succ remaining ih =>
    rw [firstElementError?] at h
    split at h
    · next e' he =>
      cases h
      exact target.inspects_elementError? he
    · exact ih h

theorem inspects_readArray (address : UInt64) (type : CType) (count : Nat) :
    Inspects (target.readArray address type count) := by
  apply (target.types.inspects_valueSize type).bind
  intro size
  split
  · next e he => exact .error (target.inspects_firstElementError? he)
  · exact .ok _

end Target

end MemoryInspector
