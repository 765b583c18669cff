import MemoryInspector.Proofs.DebugInfo.Ending

/-!
# Replayed resolutions

What is read of a unit can be read again, with other types in the cache and at another place among
the units. Only the names of records without a name tell the place, so they must not be met.
-/

namespace MemoryInspector.DebugInfo

open Relation

variable {α β : Type} {named : NamedUnit} {entry : Entry} {position depth index : Nat}
  {type : CType} {cache cache' : TypeCache}

/-! ## Runs with a result -/

theorem Resolving.bind_eq_pure_iff {steps : Resolving α} {next : α → Resolving β} {b : β} :
    (steps >>= next) = pure b ↔ ∃ a, steps = pure a ∧ next a = pure b := by
  cases houtcome : steps.run with
  | none =>
    have hsteps : steps = ExceptT.mk none := houtcome
    rw [hsteps]
    refine iff_of_false nofun ?_
    rintro ⟨a, h, -⟩
    cases h
  | some outcome =>
    cases outcome with
    | error e =>
      have hsteps : steps = throw e := houtcome
      rw [hsteps]
      refine iff_of_false nofun ?_
      rintro ⟨a, h, -⟩
      cases h
    | ok found =>
      have hsteps : steps = pure found := houtcome
      rw [hsteps, pure_bind]
      constructor
      · exact fun h ↦ ⟨found, rfl, h⟩
      · rintro ⟨a, h, hnext⟩
        cases h
        exact hnext

theorem Resolving.liftM_eq_pure_iff {outcome : Except Malformed α} {a : α} :
    (liftM outcome : Resolving α) = pure a ↔ outcome = .ok a := by
  constructor
  · intro h
    exact Option.some.inj h
  · rintro rfl
    rfl

namespace CachedResolving

variable {steps : CachedResolving α} {next : α → CachedResolving β} {outcome : Except Malformed α}

theorem run_bind_eq_pure_iff {result : β × TypeCache} :
    (steps >>= next).run cache = pure result ↔
      ∃ a middle, steps.run cache = pure (a, middle) ∧ (next a).run middle = pure result := by
  rw [StateT.run_bind, Resolving.bind_eq_pure_iff, Prod.exists]

theorem run_pure_eq_pure_iff {a b : α} :
    (pure a : CachedResolving α).run cache = pure (b, cache') ↔ a = b ∧ cache = cache' := by
  constructor
  · intro h
    cases h
    exact ⟨rfl, rfl⟩
  · rintro ⟨rfl, rfl⟩
    rfl

theorem run_liftM_bind_eq_pure_iff {next : α → CachedResolving β} {result : β × TypeCache} :
    ((liftM outcome : CachedResolving α) >>= next).run cache = pure result ↔
      ∃ a, outcome = .ok a ∧ (next a).run cache = pure result := by
  cases outcome with
  | error e =>
    refine iff_of_false nofun ?_
    rintro ⟨a, h, -⟩
    cases h
  | ok a =>
    rw [liftM_ok, pure_bind]
    simp only [Except.ok.injEq, exists_eq_left']

/-- The steps only read the entry. -/
def IsRead (steps : CachedResolving α) : Prop := ∃ outcome : Except Malformed α, steps = liftM outcome

theorem IsRead.pure (a : α) : IsRead (pure a) := ⟨.ok a, rfl⟩

theorem IsRead.liftM (outcome : Except Malformed α) : IsRead (liftM outcome) := ⟨outcome, rfl⟩

theorem IsRead.bind (h : IsRead steps) (hnext : ∀ a, IsRead (next a)) : IsRead (steps >>= next) := by
  obtain ⟨outcome, rfl⟩ := h
  cases outcome with
  | error e => exact ⟨.error e, rfl⟩
  | ok a => exact hnext a

theorem IsRead.eq_pure {a : α} (h : IsRead steps) (hrun : steps.run cache = Pure.pure (a, cache')) :
    steps = Pure.pure a := by
  obtain ⟨outcome, rfl⟩ := h
  cases outcome with
  | error e => cases hrun
  | ok found =>
    cases hrun
    rfl

end CachedResolving

namespace NamedUnit

open CachedResolving

/-! ## Types that are found -/

theorem isRead_referredType (referred : CType) :
    IsRead (referredType (fun _ ↦ pure referred) entry) := by
  unfold referredType
  refine (IsRead.liftM _).bind fun value ↦ ?_
  split
  · exact (IsRead.pure _).bind fun _ ↦ IsRead.pure _
  · exact IsRead.pure _
  · exact IsRead.pure _

/-- What an entry makes of a type depends on no cache. -/
theorem isRead_entryType (referred : CType) :
    IsRead (named.entryType (fun _ ↦ pure referred) entry) := by
  have hreferred : IsRead (referredType (fun _ ↦ pure referred) entry) := isRead_referredType referred
  unfold entryType
  cases entry.tag with
  | baseType =>
    refine (IsRead.liftM _).bind fun _ ↦ (IsRead.liftM _).bind fun _ ↦ (IsRead.liftM _).bind fun _ ↦ ?_
    split <;> exact IsRead.pure _
  | structureType | unionType | classType => exact (IsRead.liftM _).bind fun _ ↦ IsRead.pure _
  | enumerationType =>
    refine hreferred.bind fun found ↦ ?_
    cases found with
    | some type => exact IsRead.pure type
    | none => exact (IsRead.liftM _).bind fun _ ↦ IsRead.pure _
  | arrayType => exact hreferred.bind fun _ ↦ (IsRead.liftM _).bind fun _ ↦ IsRead.pure _
  | pointerType | referenceType | typeDefinition | constType | volatileType | restrictType
  | atomicType => exact hreferred.bind fun _ ↦ IsRead.pure _
  | _ => exact IsRead.pure _

/-- A type that is found by way of a sound cache is the type of the position. -/
theorem resolves_of_run (hcache : named.Sound cache)
    (h : (named.typeWithin depth position).run cache = pure (type, cache')) :
    named.Resolves position type := by
  induction depth generalizing position type cache' with
  | zero => cases h
  | succ depth ih =>
    cases hfound : cache[position]? with
    | some found =>
      rw [typeWithin_run_of_hit hfound] at h
      cases h
      exact hcache position _ hfound
    | none =>
      rw [typeWithin_run_of_miss hfound] at h
      obtain ⟨entry, hentry, h⟩ := run_liftM_bind_eq_pure_iff.1 h
      obtain ⟨found, middle, hentryType, h⟩ := run_bind_eq_pure_iff.1 h
      cases h
      cases htarget : entry.target? with
      | none =>
        rw [entryType_of_target?_eq_none htarget _ fun _ ↦ pure .void] at hentryType
        exact .alone hentry htarget ((isRead_entryType _).eq_pure hentryType)
      | some target =>
        rw [entryType_of_target? htarget] at hentryType
        obtain ⟨referred, last, hreferred, hentryType⟩ := run_bind_eq_pure_iff.1 hentryType
        exact .through hentry htarget (ih hreferred) ((isRead_entryType _).eq_pure hentryType)

/-! ## Another place among the units -/

/-- The unit with another position among the units. -/
def moved (named : NamedUnit) (index : Nat) : NamedUnit := { named with index }

/-- The record has a name, or there is a type definition that names it. -/
def HasName (named : NamedUnit) (record : Entry) : Prop :=
  (∃ name, record.name = .ok (some name)) ∨ (named.recordNames[record.offset]?).isSome

theorem recordName_moved (h : named.HasName entry) (index : Nat) :
    (named.moved index).recordName entry = named.recordName entry := by
  unfold recordName
  cases hname : entry.name with
  | error e => rfl
  | ok name =>
    cases name with
    | some name => rfl
    | none =>
      rcases h with ⟨name, h⟩ | h
      · cases hname.symm.trans h
      · obtain ⟨name, h⟩ := Option.isSome_iff_exists.1 h
        simp only [moved, Except.ok_bind, h, Option.getD_some]

theorem entryType_moved (h : entry.tag.isRecord = true → named.HasName entry) (index : Nat)
    (typeAt : Nat → CachedResolving CType) :
    (named.moved index).entryType typeAt entry = named.entryType typeAt entry := by
  unfold entryType
  cases htag : entry.tag with
  | structureType | unionType | classType =>
    rw [htag] at h
    simp only [recordName_moved (h rfl)]
  | _ => rfl

/-- The records have names that are met on the way from the position on. -/
def NamesFrom (named : NamedUnit) (position : Nat) : Prop :=
  ∀ target entry, ReflTransGen named.unit.Refers position target →
    named.unit.entryAt target = .ok entry → entry.tag.isRecord = true → named.HasName entry

theorem Resolves.moved (h : named.Resolves position type) (hnames : named.NamesFrom position)
    (index : Nat) : (named.moved index).Resolves position type := by
  induction h with
  | alone hentry htarget htype =>
    refine .alone hentry htarget ?_
    rw [entryType_moved (hnames _ _ .refl hentry), htype]
  | @through position target entry _ _ hentry htarget _ htype ih =>
    have hrefers : named.unit.Refers position target := ⟨entry, hentry, htarget⟩
    refine .through hentry htarget (ih fun other found hpath ↦ hnames other found (hpath.head hrefers))
      ?_
    rw [entryType_moved (hnames _ _ .refl hentry), htype]

/-! ## Steps that follow others -/

theorem Yields.of_run {steps : CachedResolving α} {value found : α} (h : named.Yields steps value)
    (hcache : named.Sound cache) (hrun : steps.run cache = Pure.pure (found, cache')) :
    found = value ∧ named.Sound cache' := by
  obtain ⟨last, hlast, hsound⟩ := h cache hcache
  cases hlast.symm.trans hrun
  exact ⟨rfl, hsound⟩

/-- Where the first steps come to a value from a sound cache, they keep it sound, and the second ones
come to the value from any sound cache of the moved unit. -/
def Follows (named : NamedUnit) (index : Nat) (first second : CachedResolving α) : Prop :=
  ∀ cache value cache', named.Sound cache → first.run cache = pure (value, cache') →
    named.Sound cache' ∧ (named.moved index).Yields second value

namespace Follows

variable {first second : CachedResolving α} {next next' : α → CachedResolving β}

theorem pure (a : α) : named.Follows index (pure a) (pure a) := by
  intro cache value cache' hcache hrun
  obtain ⟨rfl, rfl⟩ := run_pure_eq_pure_iff.1 hrun
  exact ⟨hcache, Yields.pure a⟩

theorem bind (h : named.Follows index first second)
    (hnext : ∀ a, named.Follows index (next a) (next' a)) :
    named.Follows index (first >>= next) (second >>= next') := by
  intro cache value cache' hcache hrun
  obtain ⟨a, middle, hfirst, hrest⟩ := run_bind_eq_pure_iff.1 hrun
  obtain ⟨hmiddle, ha⟩ := h cache a middle hcache hfirst
  obtain ⟨hlast, hvalue⟩ := hnext a middle value cache' hmiddle hrest
  exact ⟨hlast, ha.bind hvalue⟩

/-- What follows on a read counts only for the value that is read. -/
theorem liftM_bind {outcome : Except Malformed α}
    (h : ∀ a, outcome = .ok a → named.Follows index (next a) (next' a)) :
    named.Follows index ((liftM outcome : CachedResolving α) >>= next)
      ((liftM outcome : CachedResolving α) >>= next') := by
  cases outcome with
  | error e =>
    intro cache value cache' hcache hrun
    cases hrun
  | ok a => exact h a rfl

theorem mapM {elements : List α} {step step' : α → CachedResolving β}
    (h : ∀ element ∈ elements, named.Follows index (step element) (step' element)) :
    named.Follows index (elements.mapM step) (elements.mapM step') := by
  induction elements with
  | nil => exact pure []
  | cons element rest ih =>
    obtain ⟨hfirst, hrest⟩ := List.forall_mem_cons.1 h
    rw [List.mapM_cons, List.mapM_cons]
    exact hfirst.bind fun _ ↦ (ih hrest).bind fun _ ↦ pure _

end Follows

theorem follows_typeAt (h : named.NamesFrom position) :
    named.Follows index (named.typeAt position) ((named.moved index).typeAt position) := by
  intro cache type cache' hcache hrun
  have htype := resolves_of_run hcache hrun
  exact ⟨((yields_typeAt htype).of_run hcache hrun).2, yields_typeAt (htype.moved h index)⟩

theorem follows_referredType
    (h : ∀ target, entry.value .type = .ok (some (.reference target)) → named.NamesFrom target) :
    named.Follows index (referredType named.typeAt entry)
      (referredType (named.moved index).typeAt entry) := by
  apply Follows.liftM_bind
  intro value hvalue
  split
  · exact (follows_typeAt (h _ hvalue)).bind fun _ ↦ Follows.pure _
  · exact Follows.pure _
  · exact Follows.pure _

theorem follows_fieldOf? (h : ∀ target, entry.tag = .member →
      entry.value .type = .ok (some (.reference target)) → named.NamesFrom target) :
    named.Follows index (named.fieldOf? entry) ((named.moved index).fieldOf? entry) := by
  unfold fieldOf?
  split
  · exact Follows.pure none
  · next htag =>
    have hreferred : named.Follows index (referredType named.typeAt entry)
        (referredType (named.moved index).typeAt entry) :=
      follows_referredType fun target ↦ h target (not_not.1 htag)
    apply Follows.liftM_bind
    intro bits _
    split
    · exact Follows.pure none
    · apply Follows.liftM_bind
      intro name _
      cases name with
      | none => exact Follows.pure none
      | some name => exact Follows.liftM_bind fun _ _ ↦ hreferred.bind fun _ ↦ Follows.pure _

theorem follows_recordLayout (hname : named.HasName entry)
    (h : ∀ member ∈ (named.unit.children entry).found, ∀ target, member.tag = .member →
      member.value .type = .ok (some (.reference target)) → named.NamesFrom target) :
    named.Follows index (named.recordLayout entry) ((named.moved index).recordLayout entry) := by
  unfold recordLayout
  rw [recordName_moved hname]
  refine Follows.liftM_bind fun _ _ ↦ Follows.liftM_bind fun _ _ ↦ Follows.bind ?_ ?_
  · exact Follows.mapM fun member hmember ↦ follows_fieldOf? (h member hmember)
  · exact fun _ ↦ Follows.liftM_bind fun _ _ ↦ Follows.pure _

end NamedUnit

end MemoryInspector.DebugInfo
