import MemoryInspector.Proofs.DebugInfo.Collection

/-!
# Collection ends

The types of a unit are collected, or an error is found, whatever its entries refer to, unless the
references from a type that is asked for go on without end. A record stops them, as its type is its
name. On a cycle without a record nothing does: a position is remembered only when its type is
known.
-/

namespace MemoryInspector.DebugInfo

open Relation

/-- The positions of which the collection of a unit needs the types: those of type definitions and
base types, and those that the members of complete records refer to. -/
inductive CompilationUnit.AsksFor (unit : CompilationUnit) : (position : Nat) → Prop
  | name {entries : List Entry} {entry : Entry} (hentries : unit.entries = .ok entries)
      (hentry : entry ∈ entries) (htag : entry.tag = .typeDefinition ∨ entry.tag = .baseType) :
      AsksFor unit entry.offset
  | member {entries : List Entry} {entry member : Entry} {target : Nat}
      (hentries : unit.entries = .ok entries) (hentry : entry ∈ entries)
      (hrecord : entry.tag.isRecord = true) (hcomplete : entry.value .declaration = .ok none)
      (hmember : member ∈ (unit.children entry).found) (htag : member.tag = .member)
      (htype : member.value .type = .ok (some (.reference target))) : AsksFor unit target

/-! ## Steps that end -/

/-- From any cache the steps end, with a value or with an error. -/
def Ends {α : Type} (steps : CachedResolving α) : Prop :=
  ∀ cache, ∃ outcome, (steps.run cache).run = some outcome

namespace Ends

variable {α β : Type} {steps : CachedResolving α} {next : α → CachedResolving β}

theorem pure (a : α) : Ends (pure a) := fun cache ↦ ⟨.ok (a, cache), rfl⟩

theorem liftM (outcome : Except Malformed α) : Ends (liftM outcome : CachedResolving α) := by
  intro cache
  cases outcome with
  | error e => exact ⟨.error e, rfl⟩
  | ok a => exact ⟨.ok (a, cache), rfl⟩

theorem bind (h : Ends steps) (hnext : ∀ a, Ends (next a)) : Ends (steps >>= next) := by
  intro cache
  obtain ⟨outcome, houtcome⟩ := h cache
  rw [StateT.run_bind]
  cases outcome with
  | error e => exact ⟨.error e, by rw [ExceptT.run_bind, houtcome]; rfl⟩
  | ok result =>
    obtain ⟨last, hlast⟩ := hnext result.1 result.2
    exact ⟨last, by rw [ExceptT.run_bind, houtcome]; exact hlast⟩

/-- What follows on a read has to end only for the value that is read. -/
theorem liftM_bind {outcome : Except Malformed α} (h : ∀ a, outcome = .ok a → Ends (next a)) :
    Ends ((MonadLiftT.monadLift outcome : CachedResolving α) >>= next) := by
  cases outcome with
  | error e => exact fun cache ↦ ⟨.error e, rfl⟩
  | ok a => exact h a rfl

theorem mapM {step : α → CachedResolving β} {elements : List α}
    (h : ∀ element ∈ elements, Ends (step element)) : Ends (elements.mapM step) := by
  induction elements with
  | nil => exact pure []
  | cons element rest ih =>
    obtain ⟨hfirst, hrest⟩ := List.forall_mem_cons.1 h
    rw [List.mapM_cons]
    exact hfirst.bind fun _ ↦ (ih hrest).bind fun _ ↦ pure _

theorem foldlM {step : β → α → CachedResolving β} {elements : List α}
    (h : ∀ element ∈ elements, ∀ state, Ends (step state element)) (state : β) :
    Ends (elements.foldlM step state) := by
  induction elements generalizing state with
  | nil => exact pure state
  | cons element rest ih =>
    obtain ⟨hfirst, hrest⟩ := List.forall_mem_cons.1 h
    rw [List.foldlM_cons]
    exact (hfirst state).bind fun middle ↦ ih hrest middle

end Ends

namespace NamedUnit

variable {named : NamedUnit} {entry : Entry} {position depth : Nat} {cache : TypeCache}

/-! ## The type at a position -/

theorem ends_referredType {typeAt : Nat → CachedResolving CType}
    (h : ∀ target, entry.value .type = .ok (some (.reference target)) → Ends (typeAt target)) :
    Ends (referredType typeAt entry) := by
  unfold referredType
  apply Ends.liftM_bind
  intro value hvalue
  split
  · next target => exact (h target hvalue).bind fun _ ↦ Ends.pure _
  · exact Ends.pure _
  · exact Ends.pure _

/-- The type of an entry is found if the type at its target is. -/
theorem ends_entryType {typeAt : Nat → CachedResolving CType}
    (h : ∀ target, entry.target? = some target → Ends (typeAt target)) :
    Ends (named.entryType typeAt entry) := by
  have hreferred : entry.tag.refers = true → Ends (referredType typeAt entry) := by
    intro hrefers
    apply ends_referredType
    intro target hvalue
    exact h target (Entry.target?_eq_some_iff.2 ⟨hrefers, hvalue⟩)
  unfold entryType
  cases htag : entry.tag with
  | baseType =>
    refine (Ends.liftM _).bind fun _ ↦ (Ends.liftM _).bind fun _ ↦ (Ends.liftM _).bind fun _ ↦ ?_
    split <;> exact Ends.pure _
  | structureType | unionType | classType => exact (Ends.liftM _).bind fun _ ↦ Ends.pure _
  | enumerationType =>
    refine (hreferred (by rw [htag]; rfl)).bind fun referred ↦ ?_
    cases referred with
    | some type => exact Ends.pure type
    | none => exact (Ends.liftM _).bind fun _ ↦ Ends.pure _
  | arrayType =>
    refine (hreferred (by rw [htag]; rfl)).bind fun _ ↦ ?_
    exact (Ends.liftM _).bind fun _ ↦ Ends.pure _
  | pointerType | referenceType | typeDefinition | constType | volatileType | restrictType
  | atomicType => exact (hreferred (by rw [htag]; rfl)).bind fun _ ↦ Ends.pure _
  | _ => exact Ends.pure _

theorem ends_typeWithin_succ
    (h : ∀ target, named.unit.Refers position target → Ends (named.typeWithin depth target)) :
    Ends (named.typeWithin (depth + 1) position) := by
  unfold typeWithin
  refine Ends.bind (fun cache ↦ ⟨.ok (cache, cache), rfl⟩) fun known ↦ ?_
  split
  · exact Ends.pure _
  · apply Ends.liftM_bind
    intro entry hentry
    have htype : Ends (named.entryType (named.typeWithin depth) entry) :=
      ends_entryType fun target htarget ↦ h target ⟨entry, hentry, htarget⟩
    refine htype.bind fun type ↦ Ends.bind ?_ fun _ ↦ Ends.pure _
    exact fun cache ↦ ⟨.ok ((), cache.insert position type), rfl⟩

/-- The type at a position is found, or an error, if the references from there come to an end. -/
theorem ends_typeAt (h : NoEndlessPath named.unit.Refers position) :
    Ends (named.typeAt position) := by
  have hstep : ∀ depth position,
      (∀ target, named.unit.Refers position target → Ends (named.typeWithin depth target)) →
      Ends (named.typeWithin (depth + 1) position) := fun _ _ ↦ ends_typeWithin_succ
  exact CompilationUnit.descend hstep h

/-- Along references without end, no number of steps is enough. -/
theorem typeWithin_run_of_path {path : Nat → Nat}
    (hpath : ∀ index, named.unit.Refers (path index) (path (index + 1)))
    (hcache : ∀ index, cache[path index]? = none) (depth index : Nat) :
    (named.typeWithin depth (path index)).run cache = ExceptT.mk none := by
  induction depth generalizing index with
  | zero => rfl
  | succ depth ih =>
    obtain ⟨entry, hentry, htarget⟩ := hpath index
    rw [typeWithin_run_of_miss (hcache index), hentry]
    simp only [CachedResolving.liftM_ok, pure_bind]
    rw [entryType_of_target? htarget, StateT.run_bind, StateT.run_bind, ih (index + 1)]
    rfl

/-! ## What is collected -/

theorem ends_fieldOf?
    (h : ∀ target, entry.tag = .member → entry.value .type = .ok (some (.reference target)) →
      NoEndlessPath named.unit.Refers target) : Ends (named.fieldOf? entry) := by
  unfold fieldOf?
  split
  · exact Ends.pure none
  · next htag =>
    have hreferred : Ends (referredType named.typeAt entry) :=
      ends_referredType fun target hvalue ↦ ends_typeAt (h target (not_not.1 htag) hvalue)
    refine (Ends.liftM _).bind fun bits ↦ ?_
    split
    · exact Ends.pure none
    · refine (Ends.liftM _).bind fun name ↦ ?_
      cases name with
      | none => exact Ends.pure none
      | some name => exact (Ends.liftM _).bind fun _ ↦ hreferred.bind fun _ ↦ Ends.pure _

theorem ends_defineName (h : NoEndlessPath named.unit.Refers entry.offset) (types : Registry)
    (name : String) : Ends (named.defineName types name entry) := by
  unfold defineName
  split
  · exact Ends.pure types
  · exact (ends_typeAt h).bind fun _ ↦ Ends.pure _

/-- What an entry of the unit declares is collected. -/
theorem ends_collectEntry {entries : List Entry}
    (h : ∀ position, named.unit.AsksFor position → NoEndlessPath named.unit.Refers position)
    (hentries : named.unit.entries = .ok entries) (hentry : entry ∈ entries) (types : Registry) :
    Ends (named.collectEntry types entry) := by
  have hdefine : entry.tag = .typeDefinition ∨ entry.tag = .baseType →
      NoEndlessPath named.unit.Refers entry.offset :=
    fun htag ↦ h _ (.name hentries hentry htag)
  have hlayout : entry.tag.isRecord = true → entry.value .declaration = .ok none →
      Ends (named.recordLayout entry) := by
    intro hrecord hcomplete
    unfold recordLayout
    have hmembers : Ends ((named.unit.children entry).found.mapM named.fieldOf?) := by
      apply Ends.mapM
      intro member hmember
      apply ends_fieldOf?
      intro target htag htype
      exact h target (.member hentries hentry hrecord hcomplete hmember htag htype)
    refine (Ends.liftM _).bind fun _ ↦ (Ends.liftM _).bind fun _ ↦ hmembers.bind fun _ ↦ ?_
    exact (Ends.liftM _).bind fun _ ↦ Ends.pure _
  unfold collectEntry
  cases htag : entry.tag with
  | structureType | unionType | classType =>
    apply Ends.liftM_bind
    intro declaration hdeclaration
    cases declaration with
    | some => exact Ends.pure types
    | none =>
      refine (hlayout (by rw [htag]; rfl) hdeclaration).bind fun layout ↦ ?_
      split <;> exact Ends.pure _
  | typeDefinition =>
    refine (Ends.liftM _).bind fun name ↦ ?_
    cases name with
    | none => exact Ends.pure types
    | some name => exact ends_defineName (hdefine (.inl htag)) types name
  | baseType =>
    refine (Ends.liftM _).bind fun name ↦ ?_
    cases name with
    | none => exact Ends.pure types
    | some name =>
      dsimp only
      split
      · exact Ends.pure types
      · exact ends_defineName (hdefine (.inr htag)) types name
  | _ => exact Ends.pure types

end NamedUnit

/-- The types of any unit are collected, or an error is found, unless references go on without end
from a type that is asked for. -/
theorem collectUnit_ends (types : Registry) (index : Nat) (unit : CompilationUnit)
    (h : ∀ position, unit.AsksFor position → NoEndlessPath unit.Refers position) :
    ∃ outcome, (collectUnit types index unit).run = some outcome := by
  unfold collectUnit
  cases hentries : unit.entries with
  | error e => exact ⟨.error e, rfl⟩
  | ok entries =>
    cases hnames : recordNames unit entries with
    | error e => exact ⟨.error e, by simp only [hnames, Resolving.liftM_ok, pure_bind]; rfl⟩
    | ok names =>
      have hcollect : Ends (entries.foldlM (NamedUnit.mk unit index names).collectEntry types) :=
        Ends.foldlM (fun _ hentry types ↦ NamedUnit.ends_collectEntry h hentries hentry types) types
      obtain ⟨outcome, houtcome⟩ := hcollect ∅
      simp only [hnames, Resolving.liftM_ok, pure_bind]
      rw [ExceptT.run_bind, houtcome]
      cases outcome with
      | error e => exact ⟨.error e, rfl⟩
      | ok collected => exact ⟨.ok collected.1, rfl⟩

/-- The two records point to each other, but no reference leads on from a record. -/
theorem collectUnit_ends_ring :
    (∀ position, Ring.unit.AsksFor position → NoEndlessPath Ring.unit.Refers position) ∧
      ∃ outcome, (collectUnit .empty 0 Ring.unit).run = some outcome := by
  let height (position : Nat) : Nat :=
    if position = 19 then 2 else if position ∈ [7, 8, 12, 18, 20] then 1 else 0
  have hending : ∀ position, NoEndlessPath Ring.unit.Refers position :=
    fun _ ↦ CompilationUnit.noEndlessPath height (by decide)
  have hasked : ∀ position, Ring.unit.AsksFor position → NoEndlessPath Ring.unit.Refers position :=
    fun position _ ↦ hending position
  exact ⟨hasked, collectUnit_ends .empty 0 Ring.unit hasked⟩

namespace Aliases

/-! ## Two type definitions for each other -/

def forest : Forest :=
  .cons Short.root (.cons (Short.definition 1 "first" 2) .nil <|
    .cons (Short.definition 2 "second" 1) .nil .nil) .nil

def unit : CompilationUnit := forest.unit 4

theorem laidOut : unit.LaidOut forest unit.start unit.stop := Forest.laidOut_unit (by decide) rfl

/-- Each of two positions in turn. -/
def path : Nat → Nat
  | 0 => 1
  | index + 1 => if path index = 1 then 2 else 1

theorem refers_path (index : Nat) : unit.Refers (path index) (path (index + 1)) := by
  have hforth : unit.Refers 1 2 := ⟨Short.definition 1 "first" 2, rfl, rfl⟩
  have hback : unit.Refers 2 1 := ⟨Short.definition 2 "second" 1, rfl, rfl⟩
  have hplace : path index = 1 ∨ path index = 2 := by
    cases index with
    | zero => exact .inl rfl
    | succ index =>
      unfold path
      split
      · exact .inr rfl
      · exact .inl rfl
  rw [path]
  rcases hplace with hplace | hplace
  · rw [if_pos hplace, hplace]
    exact hforth
  · rw [if_neg (by rw [hplace]; decide), hplace]
    exact hback

end Aliases

/-- The types of two type definitions for each other are never collected. -/
theorem collectUnit_endless_aliases :
    Aliases.unit.LaidOut Aliases.forest Aliases.unit.start Aliases.unit.stop ∧
      (collectUnit .empty 0 Aliases.unit).run = none := by
  refine ⟨Aliases.laidOut, ?_⟩
  let named : NamedUnit := ⟨Aliases.unit, 0, ∅⟩
  have hnames : recordNames Aliases.unit Aliases.forest.entries = .ok ∅ := rfl
  have hpath : ∀ index, named.unit.Refers (Aliases.path index) (Aliases.path (index + 1)) :=
    Aliases.refers_path
  have hendless : (named.typeAt 1).run ∅ = ExceptT.mk none :=
    NamedUnit.typeWithin_run_of_path hpath (fun _ ↦ Std.TreeMap.getElem?_emptyc) _ 0
  have hroot : named.collectEntry .empty Short.root = pure .empty := rfl
  have hfirst : named.collectEntry .empty (Short.definition 1 "first" 2) =
      named.typeAt 1 >>= fun type ↦ pure (Registry.empty.define "first" type) := rfl
  have hcollect : (Aliases.forest.entries.foldlM named.collectEntry .empty).run ∅ =
      ExceptT.mk none := by
    have hentries : Aliases.forest.entries =
        [Short.root, Short.definition 1 "first" 2, Short.definition 2 "second" 1] := rfl
    rw [hentries, List.foldlM_cons, hroot, pure_bind, List.foldlM_cons, hfirst, bind_assoc,
      StateT.run_bind, hendless]
    rfl
  unfold collectUnit
  rw [Aliases.laidOut.entries_eq]
  simp only [hnames, Resolving.liftM_ok, pure_bind]
  rw [hcollect]
  rfl

end MemoryInspector.DebugInfo
