import MemoryInspector.Proofs.Expression.Evaluation
import MemoryInspector.Proofs.Hierarchy.Layouts
import MemoryInspector.Proofs.Target.Reading

/-!
# Why an expression has no value

Where every record that is mentioned has a layout, an expression fails for one of three reasons. A
pointer or scalar that it needs cannot be read, a type name of several tokens in parentheses means
nothing, or a part has no value in the sense of the language. A member or symbol that is not known
is of the last kind, too.
-/

namespace MemoryInspector

open Expression

/-- Values of the type are read as bits. -/
def CType.IsWord : CType → Prop
  | scalar _ | pointer _ => True
  | void | array _ _ | record _ => False

theorem CType.isWord_of_isPointer {type : CType} (h : type.isPointer = true) : type.IsWord := by
  cases type <;> first | exact trivial | exact absurd h Bool.false_ne_true

/-! ## Records with layouts -/

/-- Every record that the type mentions has a layout. -/
def Registry.HasLayouts (types : Registry) : CType → Prop
  | .void | .scalar _ => True
  | .pointer type | .array type _ => types.HasLayouts type
  | .record name => (types.record? name).isSome

instance Registry.decidableHasLayouts (types : Registry) :
    (type : CType) → Decidable (types.HasLayouts type)
  | .void => inferInstanceAs (Decidable True)
  | .scalar _ => inferInstanceAs (Decidable True)
  | .pointer type => types.decidableHasLayouts type
  | .array type _ => types.decidableHasLayouts type
  | .record name => inferInstanceAs (Decidable ((types.record? name).isSome = true))

/-- Every record that a field, a type definition or a symbol mentions has a layout. -/
structure Target.IsClosed (target : Target) : Prop where
  field : ∀ name layout, target.types.record? name = some layout →
    ∀ field ∈ layout.fields, target.types.HasLayouts field.type
  definition : ∀ name type, target.types.definition? name = some type → target.types.HasLayouts type
  symbol : ∀ (name : String) (type : CType), target.symbolTypes[name]? = some type →
    target.types.HasLayouts type

/-- The failure is that of a subject without a value. -/
def InspectError.IsEvaluation (e : InspectError) : Prop :=
  ∃ subject reason, e = .evaluation subject reason

/-- The failure is that of the bytes of a value in memory. -/
def Target.CannotRead (target : Target) (value : Value) (e : InspectError) : Prop :=
  ∃ address size, value = .atAddress address value.type ∧
    target.types.valueSize value.type = .ok size ∧ target.memory.bytes? address size = none ∧
    e = .unreadable address size

namespace Registry

variable {types : Registry} {type : CType} {e : InspectError}

theorem hasLayouts_of_resolve {text : String}
    (hdefinition : ∀ name type, types.definition? name = some type → types.HasLayouts type)
    (h : types.resolve text = .ok type) : types.HasLayouts type :=
  resolve_induction trivial (fun _ ↦ trivial) hdefinition
    (fun _ _ hlayout ↦ Option.isSome_of_eq_some hlayout) (fun _ htype ↦ htype)
    (fun _ _ htype ↦ htype) h

/-- A type whose records have layouts has a size, or it is too large. -/
theorem isEvaluation_of_byteSize (htype : types.HasLayouts type) (h : types.byteSize type = .error e) :
    e.IsEvaluation := by
  induction type with
  | void | scalar | pointer => cases h
  | array element length ih =>
    rcases Except.bind_eq_error_iff.1 h with helement | ⟨size, -, h⟩
    · exact ih htype helement
    · split at h
      · cases h
      · cases h
        exact ⟨_, _, rfl⟩
  | record name =>
    obtain ⟨layout, hlayout⟩ := Option.isSome_iff_exists.1 htype
    rw [byteSize, record_eq_ok_iff.2 hlayout] at h
    cases h

end Registry

namespace Target

variable {target : Target} {value : Value} {e : InspectError}

theorem cannotRead_of_readBytes {size : ℕ} (hsize : target.types.valueSize value.type = .ok size)
    (h : target.readBytes value = .error e) : target.CannotRead value e := by
  rw [readBytes, hsize, Except.ok_bind] at h
  split at h
  · next address haddress =>
    obtain ⟨hnone, rfl⟩ := Memory.read_eq_error_iff.1 h
    exact ⟨address, size, by rw [Value.eq_atAddress_iff, Value.address?, haddress]; simp, hsize,
      hnone, rfl⟩
  · cases h

/-- Scalars and pointers have bits unless they cannot be read. -/
theorem cannotRead_of_readBits (htype : value.type.IsWord) (h : target.readBits value = .error e) :
    target.CannotRead value e := by
  unfold readBits at h
  split at h
  · next kind hkind =>
    rcases Except.bind_eq_error_iff.1 h with hbytes | ⟨bytes, -, h⟩
    · exact cannotRead_of_readBytes (by rw [hkind, Registry.valueSize_scalar]) hbytes
    · cases h
  · next pointee hpointer =>
    rcases Except.bind_eq_error_iff.1 h with hbytes | ⟨bytes, -, h⟩
    · exact cannotRead_of_readBytes (by rw [hpointer, Registry.valueSize_pointer]) hbytes
    · cases h
  · next hscalar hpointer =>
    cases hvalue : value.type with
    | scalar kind => exact absurd hvalue (hscalar kind)
    | pointer pointee => exact absurd hvalue (hpointer pointee)
    | void | array | record =>
      rw [hvalue] at htype
      exact htype.elim

theorem cannotRead_of_dereference (htype : value.type.isPointer = true)
    (h : target.dereference value = .error e) : target.CannotRead value e := by
  unfold dereference at h
  split at h
  · next pointee hpointer =>
    rcases Except.bind_eq_error_iff.1 h with hread | ⟨address, -, ⟨⟩⟩
    exact cannotRead_of_readBits (CType.isWord_of_isPointer htype) hread
  · next hpointer =>
    obtain ⟨pointee, heq⟩ : ∃ pointee, value.type = .pointer pointee := by
      cases hvalue : value.type <;> rw [hvalue] at htype <;> first
        | exact absurd htype Bool.false_ne_true
        | exact ⟨_, rfl⟩
    exact absurd heq (hpointer pointee)

end Target

/-! ## Operators -/

namespace Expression

variable {target : Target} {text : String} {value : Value} {e : InspectError}

theorem isEvaluation_of_memberOf {name : String} (hlayouts : target.types.HasLayouts value.type)
    (hplace : ∀ record, value.type = .record record → value.address?.isSome)
    (h : memberOf target text value name = .error e) : e.IsEvaluation := by
  unfold memberOf at h
  split at h
  · next record htype =>
    rw [htype] at hlayouts
    obtain ⟨layout, hlayout⟩ := Option.isSome_iff_exists.1 hlayouts
    obtain ⟨address, haddress⟩ := Option.isSome_iff_exists.1 (hplace record htype)
    rw [Registry.record_eq_ok_iff.2 hlayout, Except.ok_bind] at h
    split at h
    · next hfield =>
      obtain ⟨field, hfield⟩ := Option.isSome_iff_exists.1 hfield
      have hmember := Target.field_eq_ok_iff.2
        ⟨record, address, layout, field, Value.eq_atAddress_iff.2 ⟨haddress, htype⟩, hlayout, hfield, rfl⟩
      rw [hmember] at h
      cases h
    · cases h
      exact ⟨_, _, rfl⟩
  · cases h
    exact ⟨_, _, rfl⟩

theorem elementAt_of_pointer {element : CType} (htype : value.type = .pointer element)
    (index : UInt64) : elementAt target text value index = (do
      let base ← target.readBits value
      let size ← target.types.byteSize element
      .ok (.atAddress (base + index * UInt64.ofNat size) element)) := by
  unfold elementAt
  simp only [htype, Except.ok_bind]

theorem elementAt_of_array {element : CType} {length address : UInt64}
    (htype : value.type = .array element length) (haddress : value.address? = some address)
    (index : UInt64) : elementAt target text value index = (do
      let size ← target.types.byteSize element
      .ok (.atAddress (address + index * UInt64.ofNat size) element)) := by
  unfold elementAt
  simp only [htype, haddress, Except.ok_bind]

/-- A subscript fails where a pointer cannot be read, or without a value. -/
theorem elementAt_error_cases {index : UInt64} (hlayouts : target.types.HasLayouts value.type)
    (h : elementAt target text value index = .error e) :
    value.type.isPointer = true ∧ target.CannotRead value e ∨ e.IsEvaluation := by
  cases htype : value.type with
  | pointer element =>
    have hword : value.type.IsWord := CType.isWord_of_isPointer (by rw [htype]; rfl)
    have helement : target.types.HasLayouts element := by rwa [htype] at hlayouts
    rw [elementAt_of_pointer htype] at h
    rcases Except.bind_eq_error_iff.1 h with hread | ⟨base, -, h⟩
    · exact .inl ⟨rfl, Target.cannotRead_of_readBits hword hread⟩
    · rcases Except.bind_eq_error_iff.1 h with hsize | ⟨size, -, ⟨⟩⟩
      exact .inr (Registry.isEvaluation_of_byteSize helement hsize)
  | array element length =>
    have helement : target.types.HasLayouts element := by rwa [htype] at hlayouts
    cases haddress : value.address? with
    | some address =>
      rw [elementAt_of_array htype haddress] at h
      rcases Except.bind_eq_error_iff.1 h with hsize | ⟨size, -, ⟨⟩⟩
      exact .inr (Registry.isEvaluation_of_byteSize helement hsize)
    | none =>
      simp only [elementAt, htype, haddress] at h
      cases h
      exact .inr ⟨_, _, rfl⟩
  | void | scalar | record =>
    simp only [elementAt, htype] at h
    cases h
    exact .inr ⟨_, _, rfl⟩

theorem contentsOf_error_cases (hlayouts : target.types.HasLayouts value.type)
    (h : contentsOf target text value = .error e) :
    value.type.isPointer = true ∧ target.CannotRead value e ∨ e.IsEvaluation := by
  unfold contentsOf at h
  split at h
  · next pointee htype =>
    have hpointer : value.type.isPointer = true := by rw [htype]; rfl
    exact .inl ⟨hpointer, Target.cannotRead_of_dereference hpointer h⟩
  · exact elementAt_error_cases hlayouts h
  · cases h
    exact .inr ⟨_, _, rfl⟩

theorem arrowMember_error_cases {name : String} (hlayouts : target.types.HasLayouts value.type)
    (h : arrowMember target text value name = .error e) :
    value.type.isPointer = true ∧ target.CannotRead value e ∨ e.IsEvaluation := by
  unfold arrowMember at h
  split at h
  · next hpointer =>
    rcases Except.bind_eq_error_iff.1 h with hread | ⟨record, hrecord, h⟩
    · exact .inl ⟨hpointer, Target.cannotRead_of_dereference hpointer hread⟩
    · obtain ⟨pointee, address, htype, -, rfl⟩ := Target.dereference_eq_ok_iff.1 hrecord
      rw [htype] at hlayouts
      exact .inr (isEvaluation_of_memberOf hlayouts (fun _ _ ↦ rfl) h)
  · cases h
    exact .inr ⟨_, _, rfl⟩

theorem isEvaluation_of_addressOf (h : addressOf text value = .error e) : e.IsEvaluation := by
  unfold addressOf at h
  split at h
  · cases h
  · cases h
    exact ⟨_, _, rfl⟩

/-- The bits that a cast keeps, before they are cut to the type. -/
def keptBits (target : Target) (text : String) (value : Value) : Except InspectError UInt64 :=
  match value.type, value.address? with
  | .pointer _, _ | .scalar _, _ => target.readBits value
  | .array _ _, some address => .ok address
  | type, _ => fail text s!"invalid cast from {type.spelling}"

theorem castTo_eq_keptBits {type : CType} (htype : type.IsWord) : castTo target text type value =
    (keptBits target text value).map fun bits ↦ .ofBits (truncateTo type bits) type := by
  have hmap : ∀ x : Except InspectError UInt64,
      (do let bits ← x; .ok (.ofBits (truncateTo type bits) type)) =
        x.map fun bits ↦ Value.ofBits (truncateTo type bits) type := by
    intro x
    cases x <;> rfl
  cases type with
  | void | array | record => exact htype.elim
  | scalar | pointer =>
    rw [← hmap]
    unfold castTo keptBits
    cases value.type <;> cases value.address? <;> rfl

theorem keptBits_error_cases (h : keptBits target text value = .error e) :
    value.type.IsWord ∧ target.CannotRead value e ∨ e.IsEvaluation := by
  have hread : value.type.IsWord → target.readBits value = .error e →
      value.type.IsWord ∧ target.CannotRead value e ∨ e.IsEvaluation :=
    fun hword hread ↦ .inl ⟨hword, Target.cannotRead_of_readBits hword hread⟩
  unfold keptBits at h
  split at h
  · next htype =>
    exact hread (by rw [htype]; trivial) h
  · next htype =>
    exact hread (by rw [htype]; trivial) h
  · cases h
  · cases h
    exact .inr ⟨_, _, rfl⟩

/-- A cast fails where its operand cannot be read, or without a value. -/
theorem castTo_error_cases {type : CType} (h : castTo target text type value = .error e) :
    type.IsWord ∧ value.type.IsWord ∧ target.CannotRead value e ∨ e.IsEvaluation := by
  have hkept : type.IsWord → keptBits target text value = .error e := by
    intro htype
    rw [castTo_eq_keptBits htype] at h
    cases hbits : keptBits target text value with
    | ok bits => rw [hbits] at h; cases h
    | error e' => rw [hbits] at h; cases h; rfl
  cases type with
  | void | array | record =>
    cases h
    exact .inr ⟨_, _, rfl⟩
  | scalar kind => exact (keptBits_error_cases (hkept trivial)).imp_left fun hread ↦ ⟨trivial, hread⟩
  | pointer type => exact (keptBits_error_cases (hkept trivial)).imp_left fun hread ↦ ⟨trivial, hread⟩

/-! ## Terms -/

namespace Term

/-- The term that an operator is applied to, or that stands before a fault. -/
def operand? : Term → Option Term
  | member term _ | arrow term _ | subscript term _ | contents term | addressOf term
  | cast _ term | faultAfter term _ => some term
  | integer _ | symbol _ | unknownType _ | fault _ => none

/-- The term that evaluation begins with. -/
def innermost : Term → Term
  | member term _ | arrow term _ | subscript term _ | contents term | addressOf term
  | cast _ term | faultAfter term _ => term.innermost
  | term => term

/-- The types of the casts in a term. -/
def castTypes : Term → List CType
  | cast type term => type :: term.castTypes
  | member term _ | arrow term _ | subscript term _ | contents term | addressOf term
  | faultAfter term _ => term.castTypes
  | integer _ | symbol _ | unknownType _ | fault _ => []

/-- The operator of the term takes the bits of an operand of the type. -/
def TakesBits : Term → CType → Prop
  | arrow _ _, operand | subscript _ _, operand | contents _, operand => operand.isPointer = true
  | cast type _, operand => type.IsWord ∧ operand.IsWord
  | _, _ => False

/-- The evaluation of the term takes the bits of the value. -/
inductive Needs (target : Target) : Term → Value → Prop
  | operand {outer inner : Term} {value : Value} (hoperand : outer.operand? = some inner)
      (hvalue : inner.Denotes target value) (hbits : outer.TakesBits value.type) :
      Needs target outer value
  | inside {outer inner : Term} {value : Value} (hoperand : outer.operand? = some inner)
      (hneeds : Needs target inner value) : Needs target outer value

theorem Needs.isWord {term : Term} (h : term.Needs target value) : value.type.IsWord := by
  induction h with
  | @operand outer inner value _ _ hbits =>
    cases outer with
    | arrow | subscript | contents => exact CType.isWord_of_isPointer hbits
    | cast => exact hbits.2
    | integer | symbol | member | addressOf | unknownType | fault | faultAfter => exact hbits.elim
  | inside _ _ ih => exact ih

/-- The reasons for which a term has no value. -/
inductive FailsWith (target : Target) (term : Term) : InspectError → Prop
  | unknownType {name : String} (hname : term.innermost = .unknownType name) :
      FailsWith target term (.unknownName name)
  | unreadable {value : Value} {e : InspectError} (hneeds : term.Needs target value)
      (hread : target.CannotRead value e) : FailsWith target term e
  | evaluation {e : InspectError} (he : e.IsEvaluation) : FailsWith target term e

variable {outer inner term : Term} {type : CType}

theorem innermost_eq_of_operand? (h : outer.operand? = some inner) :
    outer.innermost = inner.innermost := by
  cases outer <;> cases h <;> rfl

theorem FailsWith.inside (hoperand : outer.operand? = some inner) (h : inner.FailsWith target e) :
    outer.FailsWith target e := by
  cases h with
  | unknownType hname => exact .unknownType ((innermost_eq_of_operand? hoperand).trans hname)
  | unreadable hneeds hread => exact .unreadable (.inside hoperand hneeds) hread
  | evaluation he => exact .evaluation he

/-- An operator fails with its operand, or where it takes bits that cannot be read, or without a
value. -/
theorem failsWith_of_bind {apply : Value → Except InspectError Value}
    (hoperand : outer.operand? = some inner)
    (hinner : ∀ e, inner.eval target text = .error e → inner.FailsWith target e)
    (happly : ∀ value e, inner.Denotes target value → apply value = .error e →
      outer.TakesBits value.type ∧ target.CannotRead value e ∨ e.IsEvaluation)
    (h : (inner.eval target text >>= apply) = .error e) : outer.FailsWith target e := by
  rcases Except.bind_eq_error_iff.1 h with herror | ⟨value, hvalue, herror⟩
  · exact (hinner e herror).inside hoperand
  · have hdenotes := (eval_eq_ok_iff text inner).1 hvalue
    rcases happly value e hdenotes herror with ⟨hbits, hread⟩ | he
    · exact .unreadable (.operand hoperand hdenotes hbits) hread
    · exact .evaluation he

/-- The records in the type of a value have layouts. -/
theorem Denotes.hasLayouts (h : term.Denotes target value) (hclosed : target.IsClosed)
    (hcasts : ∀ type ∈ term.castTypes, target.types.HasLayouts type) :
    target.types.HasLayouts value.type := by
  induction h with
  | integer => exact trivial
  | @symbol name address hsymbol =>
    rw [Value.type_atAddress]
    cases htype : target.symbolTypes[name]? with
    | none => exact trivial
    | some type => exact hclosed.symbol name type htype
  | member _ hlayout hfield =>
    exact hclosed.field _ _ hlayout _ (List.mem_of_find?_eq_some hfield)
  | arrow _ _ _ hlayout hfield =>
    exact hclosed.field _ _ hlayout _ (List.mem_of_find?_eq_some hfield)
  | subscript _ helements _ ih =>
    have htype := ih hcasts
    cases helements with
    | pointer hpointer => rwa [hpointer] at htype
    | array => exact htype
  | contentsPointer _ hpointer _ ih =>
    have htype := ih hcasts
    rwa [hpointer] at htype
  | contentsArray _ _ ih => exact ih hcasts
  | addressOf _ ih => exact ih hcasts
  | castPointer => exact hcasts _ List.mem_cons_self
  | castScalar => exact trivial

/-- Records are values only where they lie in memory. -/
theorem Denotes.isSome_address? {record : String} (h : term.Denotes target value)
    (htype : value.type = .record record) : value.address?.isSome := by
  cases h <;> first | rfl | cases htype

theorem failsWith_of_eval (hclosed : target.IsClosed)
    (hcasts : ∀ type ∈ term.castTypes, target.types.HasLayouts type)
    (h : term.eval target text = .error e) : term.FailsWith target e := by
  induction term generalizing e with
  | integer => cases h
  | symbol name =>
    rw [eval] at h
    split at h
    · cases h
    · cases h
      exact .evaluation ⟨_, _, rfl⟩
  | member term name ih =>
    refine failsWith_of_bind rfl (fun e ↦ ih hcasts) ?_ h
    intro value e hvalue herror
    exact .inr (isEvaluation_of_memberOf (hvalue.hasLayouts hclosed hcasts)
      (fun _ ↦ hvalue.isSome_address?) herror)
  | arrow term name ih =>
    refine failsWith_of_bind rfl (fun e ↦ ih hcasts) ?_ h
    intro value e hvalue herror
    exact arrowMember_error_cases (hvalue.hasLayouts hclosed hcasts) herror
  | subscript term index ih =>
    refine failsWith_of_bind rfl (fun e ↦ ih hcasts) ?_ h
    intro value e hvalue herror
    exact elementAt_error_cases (hvalue.hasLayouts hclosed hcasts) herror
  | contents term ih =>
    refine failsWith_of_bind rfl (fun e ↦ ih hcasts) ?_ h
    intro value e hvalue herror
    exact contentsOf_error_cases (hvalue.hasLayouts hclosed hcasts) herror
  | addressOf term ih =>
    refine failsWith_of_bind rfl (fun e ↦ ih hcasts) ?_ h
    intro value e _ herror
    exact .inr (isEvaluation_of_addressOf herror)
  | cast type term ih =>
    have hinner := (List.forall_mem_cons.1 hcasts).2
    refine failsWith_of_bind rfl (fun e ↦ ih hinner) ?_ h
    intro value e _ herror
    rcases castTo_error_cases herror with ⟨htype, hvalue, hread⟩ | he
    · exact .inl ⟨⟨htype, hvalue⟩, hread⟩
    · exact .inr he
  | unknownType name =>
    cases h
    exact .unknownType rfl
  | fault reason =>
    cases h
    exact .evaluation ⟨_, _, rfl⟩
  | faultAfter term reason ih =>
    refine failsWith_of_bind rfl (fun e ↦ ih hcasts) ?_ h
    intro value e _ herror
    cases herror
    exact .inr ⟨_, _, rfl⟩

/-! ## What terms are read from -/

/-- The tokens hold a type name of two or more tokens in parentheses that means nothing. -/
def HasUnknownType (types : Registry) (tokens : List Token) (name : String) : Prop :=
  ∃ before names stars after,
    tokens = before ++ .mark .openParen :: (typeTokens names stars ++ .mark .closeParen :: after) ∧
    names ≠ [] ∧ 2 ≤ names.length + stars ∧ name = typeText names stars ∧
    ∀ type, types.resolve name ≠ .ok type

/-- The casts of the term are to known types, and where it begins with a type name that means
nothing, the tokens have one. -/
structure ReadFrom (types : Registry) (tokens : List Token) (term : Term) : Prop where
  castTypes : ∀ type ∈ term.castTypes, ∃ text, types.resolve text = .ok type
  unknownType : ∀ name, term.innermost = .unknownType name → HasUnknownType types tokens name

namespace ReadFrom

variable {types : Registry} {tokens : List Token}

theorem of_castTypes_eq_nil (hcasts : term.castTypes = [])
    (hinnermost : ∀ name, term.innermost ≠ .unknownType name) : ReadFrom types tokens term where
  castTypes := by
    rw [hcasts]
    nofun
  unknownType name hname := absurd hname (hinnermost name)

/-- An operator without a type keeps what its operand is read from. -/
theorem wrap (h : ReadFrom types tokens inner) (hoperand : outer.operand? = some inner)
    (hcasts : outer.castTypes = inner.castTypes) : ReadFrom types tokens outer where
  castTypes := hcasts ▸ h.castTypes
  unknownType := innermost_eq_of_operand? hoperand ▸ h.unknownType

theorem cast {text : String} (h : ReadFrom types tokens term) (htype : types.resolve text = .ok type) :
    ReadFrom types tokens (.cast type term) where
  castTypes := List.forall_mem_cons.2 ⟨⟨text, htype⟩, h.castTypes⟩
  unknownType := h.unknownType

theorem append (h : ReadFrom types tokens term) (front : List Token) :
    ReadFrom types (front ++ tokens) term where
  castTypes := h.castTypes
  unknownType name hname := by
    obtain ⟨before, names, stars, after, rfl, hunknown⟩ := h.unknownType name hname
    exact ⟨front ++ before, names, stars, after, (List.append_assoc _ _ _).symm, hunknown⟩

theorem suffixes (h : ReadFrom types tokens term) (rest : List Token) :
    ReadFrom types tokens (Term.suffixes term rest).1 := by
  fun_induction Term.suffixes term rest with
  | case1 term name rest ih | case3 term name rest ih | case5 term index rest ih =>
    exact ih (h.wrap rfl rfl)
  | case2 | case4 | case6 | case7 => exact h.wrap rfl rfl
  | case8 => exact h

theorem unary (types : Registry) (tokens : List Token) :
    ReadFrom types tokens (Term.unary types tokens).1 := by
  fun_induction Term.unary types tokens with
  | case1 | case10 => exact of_castTypes_eq_nil rfl fun _ hname ↦ by cases hname
  | case2 | case3 => exact suffixes (of_castTypes_eq_nil rfl fun _ hname ↦ by cases hname) _
  | case4 tokens operand others hread ih | case5 tokens operand others hread ih =>
    rw [hread] at ih
    exact (ih.append [_]).wrap rfl rfl
  | case6 tokens type others hhead operand others' hread ih =>
    rw [hread] at ih
    obtain ⟨names, stars, -, htype, rfl⟩ := eq_typeTokens_of_parenHead hhead
    have hbehind := (ih.cast htype).append
      (.mark .openParen :: (typeTokens names stars ++ [.mark .closeParen]))
    simpa only [List.cons_append, List.append_assoc, List.nil_append] using hbehind
  | case7 tokens name hhead =>
    obtain ⟨names, stars, rest, rfl, hunknown⟩ := eq_typeTokens_of_unknownType hhead
    constructor
    · intro type htype
      cases htype
    · intro found hfound
      cases hfound
      exact ⟨[], names, stars, rest, rfl, hunknown⟩
  | case8 tokens hhead inner others hread ih =>
    rw [hread] at ih
    exact (ih.append [_]).suffixes _
  | case9 tokens hhead inner others hclose hread ih =>
    rw [hread] at ih
    exact (ih.append [_]).wrap rfl rfl

theorem ofTokens (types : Registry) (tokens : List Token) :
    ReadFrom types tokens (Term.ofTokens types tokens) := by
  have hread := unary types tokens
  unfold Term.ofTokens
  split
  · next hterm =>
    rw [hterm] at hread
    exact hread
  · next hterm =>
    rw [hterm] at hread
    exact hread.wrap rfl rfl

end ReadFrom

end Term

end Expression

namespace Target

variable {target : Target} {text : String} {e : InspectError}

/-- Where an expression has no value, some pointer or scalar that it needs cannot be read, or it
begins with a type name of several tokens in parentheses that means nothing, or some part of it has
no value. -/
theorem evaluate_error_cases (hclosed : target.IsClosed) (h : target.evaluate text = .error e) :
    (∃ tokens value, Token.scan text.toList = .ok tokens ∧
      (Term.ofTokens target.types tokens).Needs target value ∧ value.type.IsWord ∧
      target.CannotRead value e) ∨
    (∃ tokens name, Token.scan text.toList = .ok tokens ∧
      (Term.ofTokens target.types tokens).innermost = .unknownType name ∧
      Term.HasUnknownType target.types tokens name ∧ e = .unknownName name) ∨
    e.IsEvaluation := by
  unfold evaluate at h
  split at h
  · next tokens htokens =>
    have hread := Term.ReadFrom.ofTokens target.types tokens
    have hcasts : ∀ type ∈ (Term.ofTokens target.types tokens).castTypes,
        target.types.HasLayouts type := by
      intro type htype
      obtain ⟨name, hname⟩ := hread.castTypes type htype
      exact Registry.hasLayouts_of_resolve hclosed.definition hname
    cases Term.failsWith_of_eval hclosed hcasts h with
    | unreadable hneeds hvalue => exact .inl ⟨tokens, _, htokens, hneeds, hneeds.isWord, hvalue⟩
    | unknownType hname => exact .inr (.inl ⟨tokens, _, htokens, hname, hread.unknownType _ hname, rfl⟩)
    | evaluation he => exact .inr (.inr he)
  · cases h
    exact .inr (.inr ⟨_, _, rfl⟩)

theorem isClosed_oneVector : oneVector.IsClosed where
  field name layout h := by
    have hlayout := (Hierarchy.mem_of_record? h).2
    clear h
    revert layout
    decide +kernel
  definition name type h := by
    have htype := Hierarchy.mem_of_definition? h
    clear h
    revert type
    decide +kernel
  symbol name type h := by
    simp only [oneVector, Std.TreeMap.getElem?_insert] at h
    split at h
    · cases h
      decide +kernel
    · cases h

/-- The slots of the vector are behind a pointer that is not mapped. -/
theorem evaluate_error_cases_oneVector : oneVector.IsClosed ∧
    oneVector.evaluate "(root).vec_arr[1]" = .error (.unreadable 0x1028 8) ∧
    ∃ tokens value, Token.scan "(root).vec_arr[1]".toList = .ok tokens ∧
      (Term.ofTokens oneVector.types tokens).Needs oneVector value ∧ value.address? = some 0x1028 := by
  have herror : oneVector.evaluate "(root).vec_arr[1]" = .error (.unreadable 0x1028 8) := by
    decide +kernel
  refine ⟨isClosed_oneVector, herror, ?_⟩
  rcases evaluate_error_cases isClosed_oneVector herror with
    ⟨tokens, value, htokens, hneeds, -, address, size, hvalue, -, -, ⟨⟩⟩ | ⟨_, _, _, _, _, ⟨⟩⟩ |
    ⟨_, _, ⟨⟩⟩
  exact ⟨tokens, value, htokens, hneeds, by rw [hvalue]; rfl⟩

end Target

end MemoryInspector
