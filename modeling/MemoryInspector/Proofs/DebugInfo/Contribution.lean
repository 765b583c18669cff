import MemoryInspector.Proofs.DebugInfo.Growth
import MemoryInspector.Proofs.DebugInfo.Replay

/-!
# What a unit declares

An entry of a unit declares a layout, a name for a type, or nothing. A unit that is loaded by itself
and does not meet a record without a name declares the same at every place among the units of a
program, on top of any registry.
-/

namespace MemoryInspector.DebugInfo

open Relation

variable {unit : CompilationUnit} {named : NamedUnit} {entry : Entry} {entries : List Entry}
  {names : Std.TreeMap Nat String} {types types' : Registry} {name : String}
  {cache cache' : TypeCache} {declaration : Declaration} {index : Nat}

/-! ## What entries are for -/

/-- What an entry is for: it describes a complete record, gives a name to a type, or neither. -/
inductive Role where
  | record
  | name (name : String)
  | nothing
deriving DecidableEq

def Entry.role (entry : Entry) : Except Malformed Role :=
  match entry.tag with
  | .structureType | .unionType | .classType => do
    if (← entry.value .declaration).isSome then return .nothing else return .record
  | .typeDefinition => do
    match ← entry.name with
    | some name => return .name name
    | none => return .nothing
  | .baseType => do
    match ← entry.name with
    | some name => if (Scalar.ofCName? name).isSome then return .nothing else return .name name
    | none => return .nothing
  | _ => return .nothing

theorem Entry.role_eq_record_iff : entry.role = .ok .record ↔
    entry.tag.isRecord = true ∧ entry.value .declaration = .ok none := by
  unfold role
  cases entry.tag <;> dsimp only [Tag.isRecord]
  case structureType | unionType | classType =>
    cases entry.value .declaration with
    | error e => simp [bind, Except.bind]
    | ok declaration => cases declaration <;> simp [pure, Except.pure]
  case typeDefinition =>
    cases entry.name with
    | error e => simp [bind, Except.bind]
    | ok name => cases name <;> simp [pure, Except.pure]
  case baseType =>
    cases entry.name with
    | error e => simp [bind, Except.bind]
    | ok name =>
      cases name with
      | none => simp [pure, Except.pure]
      | some name => by_cases htaken : (Scalar.ofCName? name).isSome <;> simp [htaken, pure, Except.pure]
  all_goals simp [pure, Except.pure]

theorem Entry.tag_of_role_eq_name (h : entry.role = .ok (.name name)) :
    entry.tag = .typeDefinition ∨ entry.tag = .baseType := by
  unfold role at h
  cases htag : entry.tag <;> rw [htag] at h
  case typeDefinition => exact .inl rfl
  case baseType => exact .inr rfl
  case structureType | unionType | classType =>
    obtain ⟨declaration, -, h⟩ := Except.bind_eq_ok_iff.1 h
    split at h <;> cases h
  all_goals cases h

namespace NamedUnit

theorem defineName_eq_declare (types : Registry) (name : String) (entry : Entry) :
    named.defineName types name entry =
      if (types.definition? name).isSome then pure types
      else named.typeAt entry.offset >>= fun type ↦ pure (types.declare (some (.name name type))) := by
  unfold defineName
  split
  · rfl
  · next htaken => simp only [Registry.declare, if_neg htaken]

/-- An entry is collected by its role. -/
theorem collectEntry_eq_role (types : Registry) (entry : Entry) :
    named.collectEntry types entry =
      (liftM entry.role : CachedResolving Role) >>= fun role ↦
        match role with
        | .record => named.recordLayout entry >>= fun layout ↦
            pure (types.declare (some (.record layout)))
        | .name name => named.defineName types name entry
        | .nothing => pure types := by
  unfold collectEntry Entry.role
  cases htag : entry.tag
  case structureType | unionType | classType =>
    cases entry.value .declaration with
    | error e => rfl
    | ok declaration =>
      cases declaration with
      | none =>
        have hdeclare : ∀ layout : RecordLayout,
            (if (types.record? layout.name).isSome then pure types
              else pure (types.addRecord layout) : CachedResolving Registry) =
                pure (types.declare (some (.record layout))) := by
          intro layout
          rw [Registry.declare, apply_ite pure]
        exact bind_congr hdeclare
      | some value => rfl
  case typeDefinition =>
    cases entry.name with
    | error e => rfl
    | ok name => cases name <;> rfl
  case baseType =>
    cases entry.name with
    | error e => rfl
    | ok name =>
      cases name with
      | none => rfl
      | some name =>
        by_cases htaken : (Scalar.ofCName? name).isSome
        · simp only [Except.ok_bind, CachedResolving.liftM_ok, pure_bind, if_pos htaken]
          rfl
        · simp only [Except.ok_bind, CachedResolving.liftM_ok, pure_bind, if_neg htaken]
          rfl
  all_goals rfl

end NamedUnit

/-! ## What units declare -/

namespace CompilationUnit

/-- The unit has these entries, and its type definitions give these names to records. -/
structure Lists (unit : CompilationUnit) (entries : List Entry) (names : Std.TreeMap Nat String) :
    Prop where
  entries_eq : unit.entries = .ok entries
  recordNames_eq : recordNames unit entries = .ok names

theorem Lists.unique {entries' : List Entry} {names' : Std.TreeMap Nat String}
    (h : unit.Lists entries names) (h' : unit.Lists entries' names') :
    entries = entries' ∧ names = names' := by
  cases h.entries_eq.symm.trans h'.entries_eq
  cases h.recordNames_eq.symm.trans h'.recordNames_eq
  exact ⟨rfl, rfl⟩

/-- What an entry declares: the layout, or a name and the type, that is found for it in the unit by
itself. -/
inductive Declares (unit : CompilationUnit) (entry : Entry) : Declaration → Prop
  | record {entries : List Entry} {names : Std.TreeMap Nat String} {layout : RecordLayout}
      {cache : TypeCache} (hlists : unit.Lists entries names) (hentry : entry ∈ entries)
      (hrole : entry.role = .ok .record)
      (hlayout : ((NamedUnit.mk unit 0 names).recordLayout entry).run ∅ = pure (layout, cache)) :
      Declares unit entry (.record layout)
  | name {entries : List Entry} {names : Std.TreeMap Nat String} {name : String} {type : CType}
      {cache : TypeCache} (hlists : unit.Lists entries names) (hentry : entry ∈ entries)
      (hrole : entry.role = .ok (.name name))
      (htype : ((NamedUnit.mk unit 0 names).typeAt entry.offset).run ∅ = pure (type, cache)) :
      Declares unit entry (.name name type)

theorem Declares.unique {other : Declaration} (h : unit.Declares entry declaration)
    (h' : unit.Declares entry other) : declaration = other := by
  cases h with
  | record hlists hentry hrole hlayout =>
    cases h' with
    | record hlists' hentry' hrole' hlayout' =>
      obtain ⟨rfl, rfl⟩ := hlists.unique hlists'
      cases hlayout.symm.trans hlayout'
      rfl
    | name hlists' hentry' hrole' => cases hrole.symm.trans hrole'
  | name hlists hentry hrole htype =>
    cases h' with
    | record hlists' hentry' hrole' => cases hrole.symm.trans hrole'
    | name hlists' hentry' hrole' htype' =>
      obtain ⟨rfl, rfl⟩ := hlists.unique hlists'
      cases hrole.symm.trans hrole'
      cases htype.symm.trans htype'
      rfl

theorem Declares.exists_entries (h : unit.Declares entry declaration) :
    ∃ entries, unit.entries = .ok entries ∧ entry ∈ entries := by
  cases h with
  | record hlists hentry | name hlists hentry => exact ⟨_, hlists.entries_eq, hentry⟩

theorem Declares.declaredName_eq (h : unit.Declares entry declaration)
    (hrole : entry.role = .ok (.name name)) : declaration.declaredName = .type name := by
  cases h with
  | record _ _ hrole' => cases hrole.symm.trans hrole'
  | name _ _ hrole' =>
    cases hrole.symm.trans hrole'
    rfl

theorem Declares.role_ne_nothing (h : unit.Declares entry declaration) :
    entry.role ≠ .ok .nothing := by
  intro hrole
  cases h with
  | record _ _ hrole' | name _ _ hrole' => cases hrole.symm.trans hrole'

/-- An entry declares one thing, so what comes of it is in the registry once that is added. -/
theorem Declares.grownBy (h : unit.Declares entry declaration) (types : Registry) :
    Registry.GrownBy (unit.Declares entry) types (types.declare (some declaration)) := by
  apply Registry.GrownBy.declare
  · rintro _ ⟨⟩
    exact h
  · intro other hother
    cases h.unique hother
    exact Registry.isSome_find?_declare types declaration

/-- The unit is loaded without an error, by itself. -/
def Loads (unit : CompilationUnit) : Prop := ∃ types, registryOf [unit] = pure types

/-- The record has a name, or a type definition names it. -/
def HasRecordName (unit : CompilationUnit) (record : Entry) : Prop :=
  (∃ name, record.name = .ok (some name)) ∨
    ∃ entries names, unit.Lists entries names ∧ (names[record.offset]?).isSome

/-- Every complete record has a name. -/
def NamesCompleteRecords (unit : CompilationUnit) : Prop :=
  ∀ entries, unit.entries = .ok entries → ∀ record ∈ entries, record.role = .ok .record →
    unit.HasRecordName record

/-- Every record has a name that the type of a type definition, a base type or a member of a complete
record leads to, be it complete or only declared. -/
def NamesReferredRecords (unit : CompilationUnit) : Prop :=
  ∀ position, unit.AsksFor position → ∀ target record, ReflTransGen unit.Refers position target →
    unit.entryAt target = .ok record → record.tag.isRecord = true → unit.HasRecordName record

theorem HasRecordName.hasName (h : unit.HasRecordName entry) (hlists : unit.Lists entries names)
    (index : Nat) : (NamedUnit.mk unit index names).HasName entry := by
  rcases h with hname | ⟨entries', names', hlists', hname⟩
  · exact .inl hname
  · obtain ⟨rfl, rfl⟩ := hlists.unique hlists'
    exact .inr hname

/-- It is enough that each record of the unit has a name. -/
theorem NamesReferredRecords.of_forall
    (h : ∀ target < unit.stop, (unit.entryAt target).toOption.all
      (fun record ↦ !record.tag.isRecord || record.name.toOption.join.isSome) = true) :
    unit.NamesReferredRecords := by
  intro position _ target record _ hrecord hkind
  have hnamed := h target (lt_stop_of_entryAt hrecord)
  rw [hrecord] at hnamed
  have hname : record.name.toOption.join.isSome = true := by
    simpa only [Except.toOption, Option.all_some, hkind, Bool.not_true, Bool.false_or] using hnamed
  obtain ⟨name, hname⟩ := Option.isSome_iff_exists.1 hname
  cases hvalue : record.name with
  | error e =>
    rw [hvalue] at hname
    cases hname
  | ok value =>
    rw [hvalue] at hname
    cases hname
    exact .inl ⟨name, hvalue⟩

theorem NamesReferredRecords.namesFrom (h : unit.NamesReferredRecords)
    (hlists : unit.Lists entries names) {position : Nat} (hasks : unit.AsksFor position) :
    (NamedUnit.mk unit index names).NamesFrom position := by
  intro target record hpath hrecord hkind
  exact (h position hasks target record hpath hrecord hkind).hasName hlists index

/-! ## One entry after another -/

theorem follows_typeAt (hlists : unit.Lists entries names) (hreferred : unit.NamesReferredRecords)
    (hentry : entry ∈ entries) (hrole : entry.role = .ok (.name name)) (index : Nat) :
    (NamedUnit.mk unit 0 names).Follows index ((NamedUnit.mk unit 0 names).typeAt entry.offset)
      ((NamedUnit.mk unit index names).typeAt entry.offset) :=
  NamedUnit.follows_typeAt
    (hreferred.namesFrom hlists (.name hlists.entries_eq hentry (Entry.tag_of_role_eq_name hrole)))

/-- A name that is taken is skipped. -/
theorem yields_defineName_of_taken (hrole : entry.role = .ok (.name name))
    (htaken : (types.find? (.type name)).isSome) (index : Nat) :
    (NamedUnit.mk unit index names).Yields
      ((NamedUnit.mk unit index names).defineName types name entry) types ∧
    Registry.GrownBy (unit.Declares entry) types types := by
  have hdefined : (types.definition? name).isSome := by
    rwa [Registry.find?, Option.isSome_map] at htaken
  rw [NamedUnit.defineName_eq_declare, if_pos hdefined]
  refine ⟨NamedUnit.Yields.pure types, .of_isSome fun other hother ↦ ?_⟩
  rwa [hother.declaredName_eq hrole]

section Entries

variable (hlists : unit.Lists entries names) (hcomplete : unit.NamesCompleteRecords)
  (hreferred : unit.NamesReferredRecords)
include hlists hcomplete hreferred

theorem follows_recordLayout (hentry : entry ∈ entries) (hrole : entry.role = .ok .record)
    (index : Nat) :
    (NamedUnit.mk unit 0 names).Follows index ((NamedUnit.mk unit 0 names).recordLayout entry)
      ((NamedUnit.mk unit index names).recordLayout entry) := by
  obtain ⟨hkind, hdeclaration⟩ := Entry.role_eq_record_iff.1 hrole
  apply NamedUnit.follows_recordLayout
    ((hcomplete entries hlists.entries_eq entry hentry hrole).hasName hlists 0)
  intro member hmember target htag htype
  exact hreferred.namesFrom hlists
    (.member hlists.entries_eq hentry hkind hdeclaration hmember htag htype)

variable (hcache : (NamedUnit.mk unit 0 names).Sound cache) (hentry : entry ∈ entries)
include hcache hentry

/-- A layout that is found in the unit by itself is what the entry declares. -/
theorem declares_of_run_record (hrole : entry.role = .ok .record) {layout : RecordLayout}
    (hrun : ((NamedUnit.mk unit 0 names).recordLayout entry).run cache = pure (layout, cache')) :
    unit.Declares entry (.record layout) := by
  obtain ⟨-, hyields⟩ :=
    follows_recordLayout hlists hcomplete hreferred hentry hrole 0 _ _ _ hcache hrun
  obtain ⟨last, hlast, -⟩ := hyields ∅ NamedUnit.sound_empty
  exact .record hlists hentry hrole hlast

omit hcomplete in
theorem declares_of_run_name (hrole : entry.role = .ok (.name name)) {type : CType}
    (hrun : ((NamedUnit.mk unit 0 names).typeAt entry.offset).run cache = pure (type, cache')) :
    unit.Declares entry (.name name type) := by
  obtain ⟨-, hyields⟩ := follows_typeAt hlists hreferred hentry hrole 0 _ _ _ hcache hrun
  obtain ⟨last, hlast, -⟩ := hyields ∅ NamedUnit.sound_empty
  exact .name hlists hentry hrole hlast

/-- A layout is added on top of any types. -/
theorem yields_declare_record (hrole : entry.role = .ok .record) {layout : RecordLayout}
    (hrun : ((NamedUnit.mk unit 0 names).recordLayout entry).run cache = pure (layout, cache'))
    (types : Registry) (index : Nat) :
    (NamedUnit.mk unit 0 names).Sound cache' ∧
    (NamedUnit.mk unit index names).Yields
      ((NamedUnit.mk unit index names).recordLayout entry >>= fun layout ↦
        pure (types.declare (some (.record layout))))
      (types.declare (some (.record layout))) ∧
    Registry.GrownBy (unit.Declares entry) types (types.declare (some (.record layout))) := by
  have hdeclares := declares_of_run_record hlists hcomplete hreferred hcache hentry hrole hrun
  obtain ⟨hsound, hyields⟩ :=
    follows_recordLayout hlists hcomplete hreferred hentry hrole index _ _ _ hcache hrun
  exact ⟨hsound, hyields.bind (NamedUnit.Yields.pure _), hdeclares.grownBy types⟩

omit hcomplete in
/-- A name is added on top of any types. -/
theorem yields_declare_name (hrole : entry.role = .ok (.name name)) {type : CType}
    (hrun : ((NamedUnit.mk unit 0 names).typeAt entry.offset).run cache = pure (type, cache'))
    (types : Registry) (index : Nat) :
    (NamedUnit.mk unit 0 names).Sound cache' ∧
    (NamedUnit.mk unit index names).Yields
      ((NamedUnit.mk unit index names).defineName types name entry)
      (types.declare (some (.name name type))) ∧
    Registry.GrownBy (unit.Declares entry) types (types.declare (some (.name name type))) := by
  have hdeclares := declares_of_run_name hlists hreferred hcache hentry hrole hrun
  obtain ⟨hsound, hyields⟩ := follows_typeAt hlists hreferred hentry hrole index _ _ _ hcache hrun
  refine ⟨hsound, ?_, hdeclares.grownBy types⟩
  rw [NamedUnit.defineName_eq_declare]
  split
  · next htaken =>
    rw [Registry.declare, if_pos htaken]
    exact NamedUnit.Yields.pure types
  · exact hyields.bind (NamedUnit.Yields.pure _)

variable {start start' : Registry} (htaken : start.TakenIn types)
include htaken

/-- An entry that is collected in the unit by itself is collected at any place among the units, on top
of what is there. -/
theorem collectEntry_of_run
    (hrun : ((NamedUnit.mk unit 0 names).collectEntry start entry).run cache = pure (start', cache'))
    (index : Nat) :
    (NamedUnit.mk unit 0 names).Sound cache' ∧
    ∃ types', (NamedUnit.mk unit index names).Yields
        ((NamedUnit.mk unit index names).collectEntry types entry) types' ∧
      Registry.GrownBy (unit.Declares entry) types types' ∧ start'.TakenIn types' := by
  rw [NamedUnit.collectEntry_eq_role] at hrun ⊢
  obtain ⟨role, hrole, hrun⟩ := CachedResolving.run_liftM_bind_eq_pure_iff.1 hrun
  rw [hrole, CachedResolving.liftM_ok, pure_bind]
  cases role with
  | record =>
    obtain ⟨layout, middle, hlayout, hrun⟩ := CachedResolving.run_bind_eq_pure_iff.1 hrun
    obtain ⟨rfl, rfl⟩ := CachedResolving.run_pure_eq_pure_iff.1 hrun
    obtain ⟨hsound, hyields, hgrown⟩ := yields_declare_record hlists hcomplete hreferred hcache hentry
      hrole hlayout types index
    exact ⟨hsound, _, hyields, hgrown, htaken.declare _⟩
  | name name =>
    dsimp only at hrun ⊢
    rw [NamedUnit.defineName_eq_declare] at hrun
    split at hrun
    · next hstart =>
      obtain ⟨rfl, rfl⟩ := CachedResolving.run_pure_eq_pure_iff.1 hrun
      have htype : (types.find? (.type name)).isSome :=
        htaken (.type name) (by rwa [Registry.find?, Option.isSome_map])
      obtain ⟨hyields, hgrown⟩ := yields_defineName_of_taken hrole htype index
      exact ⟨hcache, types, hyields, hgrown, htaken⟩
    · obtain ⟨type, middle, htype, hrun⟩ := CachedResolving.run_bind_eq_pure_iff.1 hrun
      obtain ⟨rfl, rfl⟩ := CachedResolving.run_pure_eq_pure_iff.1 hrun
      obtain ⟨hsound, hyields, hgrown⟩ :=
        yields_declare_name hlists hreferred hcache hentry hrole htype types index
      exact ⟨hsound, _, hyields, hgrown, htaken.declare _⟩
  | nothing =>
    obtain ⟨rfl, rfl⟩ := CachedResolving.run_pure_eq_pure_iff.1 hrun
    exact ⟨hcache, types, NamedUnit.Yields.pure types,
      .of_isSome fun other hother ↦ absurd hrole hother.role_ne_nothing, htaken⟩

end Entries

/-! ## All entries -/

theorem collectUnit_eq_pure_iff : collectUnit types index unit = pure types' ↔
    ∃ entries names cache, unit.Lists entries names ∧
      (entries.foldlM (NamedUnit.mk unit index names).collectEntry types).run ∅ =
        pure (types', cache) := by
  unfold collectUnit
  constructor
  · intro h
    obtain ⟨entries, hentries, h⟩ := Resolving.bind_eq_pure_iff.1 h
    obtain ⟨names, hnames, h⟩ := Resolving.bind_eq_pure_iff.1 h
    obtain ⟨⟨collected, cache⟩, hrun, h⟩ := Resolving.bind_eq_pure_iff.1 h
    cases h
    exact ⟨entries, names, cache, ⟨Resolving.liftM_eq_pure_iff.1 hentries,
      Resolving.liftM_eq_pure_iff.1 hnames⟩, hrun⟩
  · rintro ⟨entries, names, cache, ⟨hentries, hnames⟩, hrun⟩
    simp only [hentries, hnames, Resolving.liftM_ok, pure_bind]
    rw [hrun, pure_bind]

section Unit

variable (hcomplete : unit.NamesCompleteRecords) (hreferred : unit.NamesReferredRecords)
include hcomplete hreferred

/-- Entries that are collected in the unit by itself are collected at any place among the units, on
top of what is there. -/
theorem foldlM_collectEntry_of_run (hlists : unit.Lists entries names) {rest : List Entry}
    {start start' : Registry} (hrest : ∀ entry ∈ rest, entry ∈ entries)
    (hcache : (NamedUnit.mk unit 0 names).Sound cache) (htaken : start.TakenIn types)
    (hrun : (rest.foldlM (NamedUnit.mk unit 0 names).collectEntry start).run cache =
      pure (start', cache')) (index : Nat) :
    ∃ types', (NamedUnit.mk unit index names).Yields
        (rest.foldlM (NamedUnit.mk unit index names).collectEntry types) types' ∧
      Registry.GrownBy (fun declaration ↦ ∃ entry ∈ rest, unit.Declares entry declaration)
        types types' := by
  induction rest generalizing start types cache with
  | nil => exact ⟨types, NamedUnit.Yields.pure types, .of_isSome (by simp)⟩
  | cons entry rest ih =>
    obtain ⟨hentry, hrest⟩ := List.forall_mem_cons.1 hrest
    rw [List.foldlM_cons] at hrun ⊢
    obtain ⟨middle, last, hfirst, hrun⟩ := CachedResolving.run_bind_eq_pure_iff.1 hrun
    obtain ⟨hsound, first, hyields, hgrown, htaken⟩ :=
      collectEntry_of_run hlists hcomplete hreferred hcache hentry htaken hfirst index
    obtain ⟨types', hyields', hgrown'⟩ := ih hrest hsound htaken hrun
    refine ⟨types', hyields.bind hyields', (hgrown.trans hgrown').congr fun declaration ↦ ?_⟩
    simp only [List.mem_cons, exists_eq_or_imp]

/-- Each complete record of entries that are collected declares a layout. -/
theorem exists_declares_of_run (hlists : unit.Lists entries names) {rest : List Entry}
    {start start' : Registry} (hrest : ∀ entry ∈ rest, entry ∈ entries)
    (hcache : (NamedUnit.mk unit 0 names).Sound cache)
    (hrun : (rest.foldlM (NamedUnit.mk unit 0 names).collectEntry start).run cache =
      pure (start', cache')) :
    ∀ record ∈ rest, record.role = .ok .record →
      ∃ layout, unit.Declares record (.record layout) := by
  induction rest generalizing start cache with
  | nil => exact fun _ hrecord ↦ absurd hrecord List.not_mem_nil
  | cons entry rest ih =>
    obtain ⟨hentry, hrest⟩ := List.forall_mem_cons.1 hrest
    rw [List.foldlM_cons] at hrun
    obtain ⟨middle, last, hfirst, hrun⟩ := CachedResolving.run_bind_eq_pure_iff.1 hrun
    have hsame : start.TakenIn start := fun _ ↦ id
    obtain ⟨hsound, -⟩ :=
      collectEntry_of_run hlists hcomplete hreferred hcache hentry hsame hfirst 0
    refine List.forall_mem_cons.2 ⟨fun hrole ↦ ?_, ih hrest hsound hrun⟩
    rw [NamedUnit.collectEntry_eq_role, hrole, CachedResolving.liftM_ok, pure_bind] at hfirst
    obtain ⟨layout, _, hlayout, -⟩ := CachedResolving.run_bind_eq_pure_iff.1 hfirst
    exact ⟨layout, declares_of_run_record hlists hcomplete hreferred hcache hentry hrole hlayout⟩

variable (hloads : unit.Loads)
include hloads

omit hcomplete hreferred in
theorem Loads.exists_run : ∃ entries names types cache, unit.Lists entries names ∧
    (entries.foldlM (NamedUnit.mk unit 0 names).collectEntry .empty).run ∅ = pure (types, cache) := by
  obtain ⟨types, hrun⟩ := hloads
  have hunit : registryOf [unit] = collectUnit .empty 0 unit >>= pure := rfl
  rw [hunit, bind_pure] at hrun
  obtain ⟨entries, names, cache, hlists, hrun⟩ := collectUnit_eq_pure_iff.1 hrun
  exact ⟨entries, names, types, cache, hlists, hrun⟩

/-- A unit that is loaded by itself is loaded at any place among the units, on top of what is there. -/
theorem Loads.collectUnit (types : Registry) (index : Nat) :
    ∃ types', collectUnit types index unit = pure types' ∧
      Registry.GrownBy (fun declaration ↦ ∃ entry, unit.Declares entry declaration) types types' := by
  obtain ⟨entries, names, start, cache, hlists, hrun⟩ := hloads.exists_run
  have htaken : Registry.empty.TakenIn types := by
    intro key h
    rw [Registry.find?_empty] at h
    cases h
  obtain ⟨types', hyields, hgrown⟩ := foldlM_collectEntry_of_run hcomplete hreferred hlists
    (fun _ ↦ id) NamedUnit.sound_empty htaken hrun index
  obtain ⟨last, hlast, -⟩ := hyields ∅ NamedUnit.sound_empty
  refine ⟨types', collectUnit_eq_pure_iff.2 ⟨entries, names, last, hlists, hlast⟩,
    hgrown.congr fun declaration ↦ ⟨fun ⟨entry, _, h⟩ ↦ ⟨entry, h⟩, fun ⟨entry, h⟩ ↦ ?_⟩⟩
  obtain ⟨entries', hentries', hentry⟩ := h.exists_entries
  cases hlists.entries_eq.symm.trans hentries'
  exact ⟨entry, hentry, h⟩

theorem Loads.exists_declares (hentries : unit.entries = .ok entries) (hentry : entry ∈ entries)
    (hrole : entry.role = .ok .record) : ∃ layout, unit.Declares entry (.record layout) := by
  obtain ⟨entries', names, start, cache, hlists, hrun⟩ := hloads.exists_run
  cases hentries.symm.trans hlists.entries_eq
  exact exists_declares_of_run hcomplete hreferred hlists (fun _ ↦ id) NamedUnit.sound_empty hrun entry
    hentry hrole

end Unit

end CompilationUnit

end MemoryInspector.DebugInfo
