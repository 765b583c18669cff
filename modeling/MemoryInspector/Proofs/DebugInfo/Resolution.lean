import Mathlib.Data.Finset.Range
import Mathlib.Data.List.Forall2
import Std.Data.TreeMap.Lemmas
import MemoryInspector.DebugInfo.Types
import MemoryInspector.Proofs.Descent

/-!
# Resolution of types

The type at a position depends on the types that its entry refers to, one after another, and on
nothing that was resolved before: a cache that holds only types of their positions is kept so, and
what is found by way of it is the type of the position.
-/

namespace MemoryInspector.DebugInfo

open Relation

/-- Whether the type of an entry is built from the one that it refers to. -/
def Tag.refers : Tag → Bool
  | arrayType | enumerationType | pointerType | referenceType | typeDefinition => true
  | constType | volatileType | restrictType | atomicType => true
  | _ => false

def Tag.isPointer : Tag → Bool
  | pointerType | referenceType => true
  | _ => false

/-- Whether the type of an entry is the one that it refers to. -/
def Tag.isSynonym : Tag → Bool
  | typeDefinition | constType | volatileType | restrictType | atomicType => true
  | _ => false

theorem Tag.refers_of_isPointer {tag : Tag} (h : tag.isPointer = true) : tag.refers = true := by
  cases tag <;> first | rfl | exact absurd h Bool.false_ne_true

theorem Tag.refers_of_isSynonym {tag : Tag} (h : tag.isSynonym = true) : tag.refers = true := by
  cases tag <;> first | rfl | exact absurd h Bool.false_ne_true

/-- The position of the type that the type of the entry is built from. -/
def Entry.target? (entry : Entry) : Option Nat :=
  if entry.tag.refers then
    match entry.value .type with
    | .ok (some (.reference target)) => some target
    | _ => none
  else none

theorem Entry.target?_eq_some_iff {entry : Entry} {target : Nat} :
    entry.target? = some target ↔
      entry.tag.refers = true ∧ entry.value .type = .ok (some (.reference target)) := by
  unfold target?
  split
  · split <;> simp_all
  · simp_all

/-- The type at one position is built from the type at the other one. -/
def CompilationUnit.Refers (unit : CompilationUnit) (position target : Nat) : Prop :=
  ∃ entry, unit.entryAt position = .ok entry ∧ entry.target? = some target

theorem CompilationUnit.lt_stop_of_entryAt {unit : CompilationUnit} {position : Nat} {entry : Entry}
    (h : unit.entryAt position = .ok entry) : position < unit.stop := by
  unfold entryAt itemAt at h
  split at h
  · next hbetween => exact hbetween.2
  · cases h

/-- The position that the entry at a position refers to. -/
def CompilationUnit.targetAt? (unit : CompilationUnit) (position : Nat) : Option Nat :=
  (unit.entryAt position).toOption.bind Entry.target?

/-- References end if each of them goes down. -/
theorem CompilationUnit.noEndlessPath {unit : CompilationUnit} {position : Nat}
    (height : Nat → Nat) (h : ∀ position < unit.stop, ∀ target ∈ unit.targetAt? position,
      height target < height position) : NoEndlessPath unit.Refers position := by
  apply NoEndlessPath.of_lt height
  rintro position target ⟨entry, hentry, htarget⟩
  apply h position (lt_stop_of_entryAt hentry)
  unfold targetAt?
  rw [hentry]
  exact htarget

/-- What holds of each position one step deeper than of the position that it refers to holds of every
position from which references end, deeper than there are positions. -/
theorem CompilationUnit.descend {unit : CompilationUnit} {position : Nat} {holds : Nat → Nat → Prop}
    (hstep : ∀ depth position, (∀ target, unit.Refers position target → holds depth target) →
      holds (depth + 1) position)
    (h : NoEndlessPath unit.Refers position) : holds (unit.stop + 1) position := by
  -- Of the positions that are referred to, only those in the unit lead any further.
  let next (first second : Nat) : Prop := unit.Refers first second ∧ second < unit.stop
  have hnext : NoEndlessPath next position := h.mono fun _ _ hstep ↦ hstep.1
  have houtside : ∀ depth position, unit.stop ≤ position → holds (depth + 1) position := by
    intro depth position hle
    apply hstep
    rintro target ⟨entry, hentry, -⟩
    exact absurd (lt_stop_of_entryAt hentry) (Nat.not_lt.2 hle)
  have hinside : ∀ depth position, (∀ target, TransGen next position target → holds (depth + 1) target) →
      holds (depth + 1 + 1) position := by
    intro depth position hbehind
    apply hstep
    intro target hrefers
    rcases Nat.lt_or_ge target unit.stop with hlt | hle
    · exact hbehind target (.single ⟨hrefers, hlt⟩)
    · exact houtside depth target hle
  rcases Nat.lt_or_ge position unit.stop with hlt | hle
  · apply hnext.descend hinside (Finset.range unit.stop)
    · intro target htarget
      rw [Finset.mem_range]
      cases htarget.cases_tail with
      | inl heq => exact heq ▸ hlt
      | inr hlast =>
        obtain ⟨_, -, -, hlt'⟩ := hlast
        exact hlt'
    · rw [Finset.card_range]
  · exact houtside unit.stop position hle

theorem Resolving.liftM_ok {α : Type} (a : α) :
    (liftM (Except.ok a : Except Malformed α) : Resolving α) = pure a := rfl

theorem CachedResolving.liftM_ok {α : Type} (a : α) :
    (liftM (Except.ok a : Except Malformed α) : CachedResolving α) = pure a := rfl

namespace NamedUnit

variable {named : NamedUnit} {entry : Entry} {position target : Nat} {type referred : CType}

/-! ## The type of one entry -/

theorem referredType_of_reference (hvalue : entry.value .type = .ok (some (.reference target)))
    (typeAt : Nat → CachedResolving CType) :
    referredType typeAt entry = typeAt target >>= fun referred ↦ pure (some referred) := by
  unfold referredType
  rw [hvalue]
  rfl

theorem entryType_base {name : Option String} {size code : Option UInt64}
    (htag : entry.tag = .baseType) (hname : entry.name = .ok name)
    (hsize : entry.number .byteSize = .ok size) (hencoding : entry.number .encoding = .ok code)
    (typeAt : Nat → CachedResolving CType) :
    named.entryType typeAt entry =
      pure (baseType (name.getD "") (size.getD 0) ((code.map Encoding.ofCode).getD .other)) := by
  unfold entryType
  rw [htag, hname, hsize, hencoding]
  cases code <;> rfl

theorem entryType_record {name : String} (hrecord : entry.tag.isRecord = true)
    (hname : named.recordName entry = .ok name) (typeAt : Nat → CachedResolving CType) :
    named.entryType typeAt entry = pure (.record name) := by
  unfold entryType
  cases htag : entry.tag <;> rw [htag] at hrecord <;> first
    | exact absurd hrecord Bool.false_ne_true
    | rw [hname]; rfl

section Reference

variable {typeAt : Nat → CachedResolving CType} {found : Option CType}
  (hfound : referredType typeAt entry = pure found)
include hfound

theorem entryType_pointer (htag : entry.tag.isPointer = true) :
    named.entryType typeAt entry = pure (.pointer (found.getD .void)) := by
  unfold entryType
  cases hentry : entry.tag <;> rw [hentry] at htag <;> first
    | exact absurd htag Bool.false_ne_true
    | dsimp only; rw [hfound, pure_bind]

/-- A type definition and a qualified type are the type that they are for. -/
theorem entryType_synonym (htag : entry.tag.isSynonym = true) :
    named.entryType typeAt entry = pure (found.getD .void) := by
  unfold entryType
  cases hentry : entry.tag <;> rw [hentry] at htag <;> first
    | exact absurd htag Bool.false_ne_true
    | dsimp only; rw [hfound, pure_bind]

/-- An enumeration without a type of its own is an integer of its size. -/
theorem entryType_enumeration {size : Option UInt64} (htag : entry.tag = .enumerationType)
    (hsize : entry.number .byteSize = .ok size) :
    named.entryType typeAt entry = pure (found.getD
      (.scalar ((Scalar.integer? (size.getD 4).toNat false).getD .uint32))) := by
  unfold entryType
  rw [htag]
  dsimp only
  rw [hfound, pure_bind, hsize]
  cases found <;> rfl

theorem entryType_array {lengths : List UInt64} (htag : entry.tag = .arrayType)
    (hlengths : dimensions named.unit entry = .ok lengths) :
    named.entryType typeAt entry = pure (arrayOf (found.getD .void) lengths) := by
  unfold entryType
  rw [htag]
  dsimp only
  rw [hfound, pure_bind, hlengths]
  rfl

end Reference

/-- The type of an entry is the type at its target, and then what the entry makes of it. -/
theorem entryType_of_target? (htarget : entry.target? = some target)
    (typeAt : Nat → CachedResolving CType) :
    named.entryType typeAt entry =
      typeAt target >>= fun referred ↦ named.entryType (fun _ ↦ pure referred) entry := by
  obtain ⟨hrefers, hvalue⟩ := Entry.target?_eq_some_iff.1 htarget
  unfold entryType
  cases htag : entry.tag <;> rw [htag] at hrefers <;> first
    | exact absurd hrefers Bool.false_ne_true
    | simp only [referredType_of_reference hvalue, bind_assoc, pure_bind]

/-- Without a target, the type of an entry depends on no other one. -/
theorem entryType_of_target?_eq_none (htarget : entry.target? = none)
    (typeAt other : Nat → CachedResolving CType) :
    named.entryType typeAt entry = named.entryType other entry := by
  have hreferred : entry.tag.refers = true →
      referredType typeAt entry = referredType other entry := by
    intro hrefers
    unfold Entry.target? at htarget
    rw [if_pos hrefers] at htarget
    unfold referredType
    cases hvalue : entry.value .type with
    | error e => rfl
    | ok value =>
      cases value with
      | none => rfl
      | some value =>
        cases value <;> first | rfl | skip
        rw [hvalue] at htarget
        cases htarget
  unfold entryType
  cases htag : entry.tag <;> rw [htag] at hreferred <;> first | rfl | rw [hreferred rfl]

/-! ## The type at a position -/

/-- The type at a position, by way of the types at the positions that its entry refers to. -/
inductive Resolves (named : NamedUnit) : (position : Nat) → CType → Prop
  | alone {position : Nat} {entry : Entry} {type : CType}
      (hentry : named.unit.entryAt position = .ok entry) (htarget : entry.target? = none)
      (htype : named.entryType (fun _ ↦ pure .void) entry = pure type) : Resolves named position type
  | through {position target : Nat} {entry : Entry} {referred type : CType}
      (hentry : named.unit.entryAt position = .ok entry) (htarget : entry.target? = some target)
      (hreferred : Resolves named target referred)
      (htype : named.entryType (fun _ ↦ pure referred) entry = pure type) :
      Resolves named position type

theorem resolves_iff_of_alone (hentry : named.unit.entryAt position = .ok entry)
    (htarget : entry.target? = none) :
    named.Resolves position type ↔ named.entryType (fun _ ↦ pure .void) entry = pure type := by
  refine ⟨fun h ↦ ?_, .alone hentry htarget⟩
  cases h with
  | alone hentry' _ htype =>
    cases hentry.symm.trans hentry'
    exact htype
  | through hentry' htarget' =>
    cases hentry.symm.trans hentry'
    cases htarget.symm.trans htarget'

theorem resolves_iff_of_through (hentry : named.unit.entryAt position = .ok entry)
    (htarget : entry.target? = some target) :
    named.Resolves position type ↔ ∃ referred, named.Resolves target referred ∧
      named.entryType (fun _ ↦ pure referred) entry = pure type := by
  constructor
  · intro h
    cases h with
    | alone hentry' htarget' =>
      cases hentry.symm.trans hentry'
      cases htarget.symm.trans htarget'
    | through hentry' htarget' hreferred htype =>
      cases hentry.symm.trans hentry'
      cases htarget.symm.trans htarget'
      exact ⟨_, hreferred, htype⟩
  · rintro ⟨referred, hreferred, htype⟩
    exact .through hentry htarget hreferred htype

theorem pure_inj {α : Type} {a b : α} (h : (pure a : CachedResolving α) = pure b) : a = b := by
  have hrun := congrFun h ∅
  cases hrun
  rfl

/-- A position has one type. -/
theorem Resolves.unique {other : CType} (h : named.Resolves position type)
    (hother : named.Resolves position other) : type = other := by
  induction h generalizing other with
  | alone hentry htarget htype =>
    have htype' := (resolves_iff_of_alone hentry htarget).1 hother
    exact pure_inj (htype.symm.trans htype')
  | through hentry htarget _ htype ih =>
    obtain ⟨referred, hreferred, htype'⟩ := (resolves_iff_of_through hentry htarget).1 hother
    cases ih hreferred
    exact pure_inj (htype.symm.trans htype')

/-- References from a position with a type come to an end. -/
theorem Resolves.noEndlessPath (h : named.Resolves position type) :
    NoEndlessPath named.unit.Refers position := by
  induction h with
  | alone hentry htarget =>
    apply NoEndlessPath.of_next
    rintro target ⟨entry, hentry', htarget'⟩
    cases hentry.symm.trans hentry'
    cases htarget.symm.trans htarget'
  | through hentry htarget _ _ ih =>
    apply NoEndlessPath.of_next
    rintro target ⟨entry, hentry', htarget'⟩
    cases hentry.symm.trans hentry'
    cases htarget.symm.trans htarget'
    exact ih

theorem Resolves.entryAt_eq (h : named.Resolves position type) :
    ∃ entry, named.unit.entryAt position = .ok entry := by
  cases h with
  | alone hentry => exact ⟨_, hentry⟩
  | through hentry => exact ⟨_, hentry⟩

/-! ## Resolution with a cache -/

/-- The cache holds only types of their positions. -/
def Sound (named : NamedUnit) (cache : TypeCache) : Prop :=
  ∀ position type, cache[position]? = some type → named.Resolves position type

theorem sound_empty : named.Sound ∅ := by
  intro position type h
  rw [Std.TreeMap.getElem?_emptyc] at h
  cases h

theorem Sound.insert {cache : TypeCache} (h : named.Sound cache)
    (htype : named.Resolves position type) : named.Sound (cache.insert position type) := by
  intro other found hfound
  rw [Std.TreeMap.getElem?_insert] at hfound
  split at hfound
  · next heq =>
    cases Std.LawfulEqOrd.eq_of_compare heq
    cases hfound
    exact htype
  · exact h other found hfound

theorem typeWithin_run_of_hit {depth : Nat} {cache : TypeCache} (h : cache[position]? = some type) :
    (named.typeWithin (depth + 1) position).run cache = pure (type, cache) := by
  unfold typeWithin
  rw [StateT.run_bind, StateT.run_get, pure_bind]
  dsimp only
  rw [h]
  rfl

/-- A type that is not in the cache is found by way of the entry and then put there. -/
theorem typeWithin_run_of_miss {depth : Nat} {cache : TypeCache} (h : cache[position]? = none) :
    (named.typeWithin (depth + 1) position).run cache = (do
      let entry ← named.unit.entryAt position
      let type ← named.entryType (named.typeWithin depth) entry
      modify (·.insert position type)
      return type : CachedResolving CType).run cache := by
  unfold typeWithin
  rw [StateT.run_bind, StateT.run_get, pure_bind]
  dsimp only
  rw [h]

/-- From any sound cache the steps end with the value, and with a sound cache. -/
def Yields {α : Type} (named : NamedUnit) (steps : CachedResolving α) (value : α) : Prop :=
  ∀ cache, named.Sound cache →
    ∃ cache', steps.run cache = pure (value, cache') ∧ named.Sound cache'

namespace Yields

variable {α β : Type} {a : α} {b : β}

theorem pure (a : α) : named.Yields (pure a) a := fun cache hcache ↦ ⟨cache, rfl, hcache⟩

theorem bind {steps : CachedResolving α} {next : α → CachedResolving β} (h : named.Yields steps a)
    (hnext : named.Yields (next a) b) : named.Yields (steps >>= next) b := by
  intro cache hcache
  obtain ⟨middle, hmiddle, hsound⟩ := h cache hcache
  obtain ⟨last, hlast, hlastSound⟩ := hnext middle hsound
  refine ⟨last, ?_, hlastSound⟩
  rw [StateT.run_bind, hmiddle, pure_bind, hlast]

theorem mapM {step : α → CachedResolving β} {elements : List α} {results : List β}
    (h : List.Forall₂ (fun element result ↦ named.Yields (step element) result) elements results) :
    named.Yields (elements.mapM step) results := by
  induction h with
  | nil => exact pure []
  | cons hstep _ ih =>
    rw [List.mapM_cons]
    exact hstep.bind (ih.bind (pure _))

theorem foldlM {step : β → α → CachedResolving β} {next : β → α → β} {elements : List α}
    (h : ∀ element ∈ elements, ∀ state, named.Yields (step state element) (next state element))
    (state : β) : named.Yields (elements.foldlM step state) (elements.foldl next state) := by
  induction elements generalizing state with
  | nil => exact pure state
  | cons element rest ih =>
    obtain ⟨hfirst, hrest⟩ := List.forall_mem_cons.1 h
    rw [List.foldlM_cons]
    exact (hfirst state).bind (ih hrest _)

end Yields

theorem yields_typeWithin_succ {depth : Nat} (htype : named.Resolves position type)
    (hstep : ∀ entry, named.unit.entryAt position = .ok entry →
      named.Yields (named.entryType (named.typeWithin depth) entry) type) :
    named.Yields (named.typeWithin (depth + 1) position) type := by
  intro cache hcache
  cases hfound : cache[position]? with
  | some found =>
    cases (hcache position found hfound).unique htype
    exact ⟨cache, typeWithin_run_of_hit hfound, hcache⟩
  | none =>
    obtain ⟨entry, hentry⟩ := htype.entryAt_eq
    obtain ⟨middle, hmiddle, hsound⟩ := hstep entry hentry cache hcache
    refine ⟨middle.insert position type, ?_, hsound.insert htype⟩
    rw [typeWithin_run_of_miss hfound, hentry]
    calc _ = (named.entryType (named.typeWithin depth) entry).run cache >>= fun outcome ↦
          pure (outcome.1, outcome.2.insert position outcome.1) := rfl
      _ = pure (type, middle.insert position type) := by rw [hmiddle, pure_bind]

/-- The type at a position is found from any sound cache. -/
theorem yields_typeAt (h : named.Resolves position type) :
    named.Yields (named.typeAt position) type := by
  have hstep : ∀ depth position,
      (∀ target, named.unit.Refers position target →
        ∀ type, named.Resolves target type → named.Yields (named.typeWithin depth target) type) →
      ∀ type, named.Resolves position type →
        named.Yields (named.typeWithin (depth + 1) position) type := by
    intro depth position hbehind type htype
    apply yields_typeWithin_succ htype
    intro entry hentry
    cases htype with
    | alone hentry' htarget htype =>
      cases hentry.symm.trans hentry'
      rw [entryType_of_target?_eq_none htarget _ fun _ ↦ pure .void, htype]
      exact Yields.pure type
    | through hentry' htarget hreferred htype =>
      cases hentry.symm.trans hentry'
      rw [entryType_of_target? htarget]
      apply Yields.bind (hbehind _ ⟨entry, hentry, htarget⟩ _ hreferred)
      rw [htype]
      exact Yields.pure type
  exact CompilationUnit.descend hstep h.noEndlessPath type h

/-! ## What is collected -/

variable {name : String} {layout : RecordLayout}

theorem yields_fieldOf? {offset : UInt64} {found : Option CType} (htag : entry.tag = .member)
    (hbits : entry.value .bitSize = .ok none) (hname : entry.name = .ok (some name))
    (hoffset : memberOffset entry = .ok offset)
    (hfound : named.Yields (referredType named.typeAt entry) found) :
    named.Yields (named.fieldOf? entry) (some ⟨name, offset, found.getD .void⟩) := by
  unfold fieldOf?
  rw [if_neg (not_not_intro htag), hbits, hname, hoffset]
  simp only [CachedResolving.liftM_ok, pure_bind, Option.isSome_none, Bool.false_eq_true, if_false]
  exact hfound.bind (Yields.pure _)

theorem yields_recordLayout {size : Option UInt64} {members : List Entry}
    {results : List (Option Field)} (hname : named.recordName entry = .ok name)
    (hsize : entry.number .byteSize = .ok size) (hmembers : named.unit.children entry = .complete members)
    (hresults : named.Yields (members.mapM named.fieldOf?) results) :
    named.Yields (named.recordLayout entry) ⟨name, size.getD 0, results.filterMap id⟩ := by
  unfold recordLayout
  rw [hname, hsize, hmembers]
  simp only [CachedResolving.liftM_ok, pure_bind]
  exact hresults.bind ((Yields.pure ()).bind (Yields.pure _))

/-- A complete record is added under its name, unless there is one. -/
theorem yields_collectEntry_record (hrecord : entry.tag.isRecord = true)
    (hcomplete : entry.value .declaration = .ok none)
    (hlayout : named.Yields (named.recordLayout entry) layout) (types : Registry) :
    named.Yields (named.collectEntry types entry)
      (if (types.record? layout.name).isSome then types else types.addRecord layout) := by
  have hcollect : named.collectEntry types entry = named.recordLayout entry >>= fun layout ↦
      if (types.record? layout.name).isSome then pure types else pure (types.addRecord layout) := by
    unfold collectEntry
    cases htag : entry.tag <;> rw [htag] at hrecord <;> first
      | exact absurd hrecord Bool.false_ne_true
      | rw [hcomplete]; rfl
  rw [hcollect]
  apply hlayout.bind
  split <;> exact Yields.pure _

/-- A type is added under a name, unless there is one. -/
theorem yields_defineName (htype : named.Resolves entry.offset type) (types : Registry)
    (name : String) : named.Yields (named.defineName types name entry)
      (if (types.definition? name).isSome then types else types.define name type) := by
  unfold defineName
  split
  · exact Yields.pure types
  · exact (yields_typeAt htype).bind (Yields.pure _)

end NamedUnit

/-- The registry of one unit is what its entries yield from an empty one. -/
theorem registryOf_of_yields {unit : CompilationUnit} {entries : List Entry}
    {names : Std.TreeMap Nat String} {types : Registry} (hentries : unit.entries = .ok entries)
    (hnames : recordNames unit entries = .ok names)
    (h : (NamedUnit.mk unit 0 names).Yields
      (entries.foldlM (NamedUnit.mk unit 0 names).collectEntry .empty) types) :
    registryOf [unit] = pure types := by
  obtain ⟨cache, hrun, _⟩ := h ∅ NamedUnit.sound_empty
  have hcollect : collectUnit .empty 0 unit = pure types := by
    unfold collectUnit
    simp only [hentries, hnames, Resolving.liftM_ok, pure_bind]
    rw [hrun, pure_bind]
  calc registryOf [unit] = collectUnit .empty 0 unit >>= pure := rfl
    _ = pure types := by rw [hcollect, pure_bind]

end MemoryInspector.DebugInfo
