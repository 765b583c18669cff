import MemoryInspector.Proofs.Outcome
import MemoryInspector.Proofs.Registry
import MemoryInspector.Proofs.Text.Printable
import MemoryInspector.Target

/-!
# Printable names and messages

Where all names of fields and records are printable, so is the message of every failure to read a
target, and the values that are reached have types with printable names again.
-/

namespace MemoryInspector

open Text

/-- The names of the records in the type are printable. -/
def CType.HasPrintable : CType → Prop
  | pointer type | array type _ => type.HasPrintable
  | record name => Printable name
  | void | scalar _ => True

instance CType.decidableHasPrintable : (type : CType) → Decidable type.HasPrintable
  | void => inferInstanceAs (Decidable True)
  | scalar _ => inferInstanceAs (Decidable True)
  | pointer type => decidableHasPrintable type
  | array type _ => decidableHasPrintable type
  | record name => inferInstanceAs (Decidable (Printable name))

/-- The names of records and fields that a registry knows or mentions are printable. -/
structure Registry.HasPrintable (types : Registry) : Prop where
  record : ∀ name layout, types.record? name = some layout → Printable name
  field : ∀ name layout, types.record? name = some layout →
    ∀ field ∈ layout.fields, Printable field.name ∧ field.type.HasPrintable
  definition : ∀ name type, types.definition? name = some type → type.HasPrintable

/-- A good result, or a failure with a printable message. -/
def CleanResult {α : Type} (good : α → Prop) : Except InspectError α → Prop
  | .ok a => good a
  | .error e => Printable e.message

/-! ## Messages -/

theorem CType.printable_spelling {type : CType} (h : type.HasPrintable) : Printable type.spelling := by
  induction type with
  | void => decide
  | scalar kind => cases kind <;> decide
  | pointer type ih =>
    rw [spelling]
    split
    · exact (ih h).append (by decide)
    · exact (ih h).append (by decide)
  | array type length ih =>
    exact (((ih h).append (by decide)).append (printable_decimal _)).append (by decide)
  | record name => exact h

namespace InspectError

variable {name subject reason : String}

theorem printable_unknownName (h : Printable name) : Printable (unknownName name).message :=
  ((by decide : Printable "Unknown type or member '").append h).append (by decide)

theorem printable_evaluation (hsubject : Printable subject) (hreason : Printable reason) :
    Printable (evaluation subject reason).message :=
  (((by decide : Printable "Cannot evaluate '").append hsubject).append (by decide)).append hreason

theorem printable_unreadable (address : UInt64) (count : Nat) :
    Printable (unreadable address count).message :=
  ((((by decide : Printable "Cannot access memory at address 0x").append (printable_hex _)).append
    (by decide)).append (printable_decimal _)).append (by decide)

end InspectError

namespace CleanResult

variable {α β : Type} {good : α → Prop} {good' : β → Prop}

theorem bind {x : Except InspectError α} {f : α → Except InspectError β} (hx : CleanResult good x)
    (hf : ∀ a, good a → CleanResult good' (f a)) : CleanResult good' (x >>= f) := by
  cases x with
  | ok a => exact hf a hx
  | error e => exact hx

theorem of_ok {x : Except InspectError α} {a : α} (hx : CleanResult good x) (h : x = .ok a) :
    good a := by
  subst h
  exact hx

end CleanResult

/-! ## The registry -/

namespace Registry

variable {types : Registry} {type : CType} {name : String}

theorem clean_record (hname : Printable name) :
    CleanResult (fun layout ↦ types.record? name = some layout) (types.record name) := by
  rw [record]
  split
  · next layout hlayout => exact hlayout
  · exact InspectError.printable_unknownName hname

theorem clean_byteSize (htype : type.HasPrintable) :
    CleanResult (fun _ ↦ True) (types.byteSize type) := by
  induction type with
  | void | scalar | pointer => exact trivial
  | array element length ih =>
    rw [byteSize]
    apply (ih htype).bind
    intro size _
    split
    · exact trivial
    · exact InspectError.printable_evaluation (CType.printable_spelling htype) (by decide)
  | record name =>
    rw [byteSize]
    exact (clean_record htype).bind fun _ _ ↦ trivial

theorem clean_valueSize (htype : type.HasPrintable) :
    CleanResult (fun _ ↦ True) (types.valueSize type) := by
  rw [valueSize]
  apply (clean_byteSize htype).bind
  intro size _
  split
  · exact trivial
  · refine InspectError.printable_evaluation (CType.printable_spelling htype) ?_
    exact ((((by decide : Printable "value requires ").append (printable_decimal _)).append
      (by decide)).append (printable_decimal _)).append (by decide)

theorem hasPrintable_of_resolve (htypes : types.HasPrintable) (h : types.resolve name = .ok type) :
    type.HasPrintable :=
  resolve_induction trivial (fun _ ↦ trivial) htypes.definition htypes.record (fun _ htype ↦ htype)
    (fun _ _ htype ↦ htype) h

theorem clean_resolve (htypes : types.HasPrintable) (hname : Printable name) :
    CleanResult CType.HasPrintable (types.resolve name) := by
  cases hresolve : types.resolve name with
  | ok type => exact hasPrintable_of_resolve htypes hresolve
  | error e =>
    rw [eq_unknownName_of_resolve hresolve]
    exact InspectError.printable_unknownName hname

end Registry

/-! ## Reading -/

theorem Memory.clean_read (memory : Memory) (address : UInt64) (count : Nat) :
    CleanResult (fun _ ↦ True) (memory.read address count) := by
  rw [read]
  split
  · exact trivial
  · exact InspectError.printable_unreadable address count

namespace Target

variable {target : Target} {value : Value} {name : String} {type : CType}

theorem clean_readBytes (hvalue : value.type.HasPrintable) :
    CleanResult (fun _ ↦ True) (target.readBytes value) := by
  rw [readBytes]
  apply (Registry.clean_valueSize hvalue).bind
  intro size _
  split
  · exact target.memory.clean_read _ _
  · exact trivial

theorem clean_readBits (hvalue : value.type.HasPrintable) :
    CleanResult (fun _ ↦ True) (target.readBits value) := by
  unfold readBits
  split
  · exact (clean_readBytes hvalue).bind fun _ _ ↦ trivial
  · exact (clean_readBytes hvalue).bind fun _ _ ↦ trivial
  · exact InspectError.printable_evaluation (CType.printable_spelling hvalue) (by decide)

theorem clean_readInteger (hvalue : value.type.HasPrintable) :
    CleanResult (fun _ ↦ True) (target.readInteger value) := by
  rw [readInteger]
  apply (clean_readBits hvalue).bind
  intro bits _
  split
  · split <;> exact trivial
  · exact trivial

/-- The type of a member has printable names. -/
theorem clean_field (htypes : target.types.HasPrintable) (hvalue : value.type.HasPrintable)
    (hname : Printable name) :
    CleanResult (fun member ↦ member.type.HasPrintable) (target.field value name) := by
  have hunknown : ∀ owner, Printable owner → Printable (InspectError.unknownName s!"{owner}.{name}").message :=
    fun owner howner ↦ InspectError.printable_unknownName ((howner.append (by decide)).append hname)
  unfold field
  split
  · next record htype =>
    rw [htype] at hvalue
    apply (Registry.clean_record hvalue).bind
    intro layout hlayout
    split
    · next field address hfield haddress =>
      exact (htypes.field record layout hlayout field (List.mem_of_find?_eq_some hfield)).2
    · exact hunknown record hvalue
  · exact hunknown _ (CType.printable_spelling hvalue)

theorem clean_dereference (hvalue : value.type.HasPrintable) :
    CleanResult (fun pointed ↦ pointed.type.HasPrintable) (target.dereference value) := by
  have hbits : CleanResult (fun _ ↦ True) (target.readBits value) := clean_readBits hvalue
  unfold dereference
  split
  · next pointee htype =>
    rw [htype] at hvalue
    exact hbits.bind fun _ _ ↦ hvalue
  · exact InspectError.printable_evaluation (CType.printable_spelling hvalue) (by decide)

theorem printable_firstElementError? {address : UInt64} {size count first remaining : Nat}
    {e : InspectError} (h : target.firstElementError? address size count first remaining = some e) :
    Printable e.message := by
  induction remaining generalizing first with
  | zero => cases h
  | succ remaining ih =>
    rw [firstElementError?] at h
    split at h
    · next e' he =>
      cases h
      unfold elementError? at he
      simp only at he
      split at he
      · split at he
        · cases he
        · cases he
          exact InspectError.printable_unreadable _ _
      · cases he
        exact InspectError.printable_unreadable _ _
    · exact ih h

theorem clean_readArray (htype : type.HasPrintable) (address : UInt64) (count : Nat) :
    CleanResult (fun elements ↦ ∀ element ∈ elements, element.type.HasPrintable)
      (target.readArray address type count) := by
  rw [readArray]
  apply (Registry.clean_valueSize htype).bind
  intro size _
  split
  · next e he => exact printable_firstElementError? he
  · intro element helement
    obtain ⟨index, -, rfl⟩ := List.mem_map.1 helement
    exact htype

end Target

end MemoryInspector
