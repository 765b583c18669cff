import MemoryInspector.Proofs.DebugInfo.Contribution

/-!
# Units of a program

The units of a program share one registry, and what a unit declares under a name that is taken is left
out. If the units agree on what they declare and no record without a name is met, the registry is the
same for every order of the units, and it has whatever one of them declares.
-/

namespace MemoryInspector.DebugInfo

variable {unit : CompilationUnit} {named : NamedUnit} {units : List CompilationUnit} {entry : Entry}
  {entries : List Entry} {types types' : Registry} {cache cache' : TypeCache} {index : Nat}

/-! ## Nothing that is there changes -/

theorem NamedUnit.keeps_of_collectEntry
    (h : (named.collectEntry types entry).run cache = pure (types', cache')) :
    types'.Keeps types := by
  rw [collectEntry_eq_role] at h
  obtain ⟨role, -, h⟩ := CachedResolving.run_liftM_bind_eq_pure_iff.1 h
  cases role with
  | record =>
    obtain ⟨layout, _, -, h⟩ := CachedResolving.run_bind_eq_pure_iff.1 h
    obtain ⟨rfl, -⟩ := CachedResolving.run_pure_eq_pure_iff.1 h
    exact Registry.keeps_declare types _
  | name name =>
    dsimp only at h
    rw [defineName_eq_declare] at h
    split at h
    · obtain ⟨rfl, -⟩ := CachedResolving.run_pure_eq_pure_iff.1 h
      exact .refl types
    · obtain ⟨type, _, -, h⟩ := CachedResolving.run_bind_eq_pure_iff.1 h
      obtain ⟨rfl, -⟩ := CachedResolving.run_pure_eq_pure_iff.1 h
      exact Registry.keeps_declare types _
  | nothing =>
    obtain ⟨rfl, -⟩ := CachedResolving.run_pure_eq_pure_iff.1 h
    exact .refl types

theorem NamedUnit.keeps_of_foldlM
    (h : (entries.foldlM named.collectEntry types).run cache = pure (types', cache')) :
    types'.Keeps types := by
  induction entries generalizing types cache with
  | nil =>
    obtain ⟨rfl, -⟩ := CachedResolving.run_pure_eq_pure_iff.1 h
    exact .refl types
  | cons entry rest ih =>
    rw [List.foldlM_cons] at h
    obtain ⟨first, middle, hfirst, hrest⟩ := CachedResolving.run_bind_eq_pure_iff.1 h
    exact (ih hrest).trans (keeps_of_collectEntry hfirst)

theorem keeps_of_collectUnit (h : collectUnit types index unit = pure types') :
    types'.Keeps types := by
  obtain ⟨entries, names, cache, -, hrun⟩ := CompilationUnit.collectUnit_eq_pure_iff.1 h
  exact NamedUnit.keeps_of_foldlM hrun

/-! ## All units -/

/-- The registry with what units declare that stand from a position on. -/
def collectUnits (types : Registry) (index : Nat) (units : List CompilationUnit) :
    Resolving Registry :=
  (units.zipIdx index).foldlM (fun types (unit, index) ↦ collectUnit types index unit) types

theorem registryOf_eq_collectUnits (units : List CompilationUnit) :
    registryOf units = collectUnits .empty 0 units := rfl

theorem collectUnits_cons (types : Registry) (index : Nat) (unit : CompilationUnit)
    (units : List CompilationUnit) : collectUnits types index (unit :: units) =
      collectUnit types index unit >>= fun types ↦ collectUnits types (index + 1) units := rfl

theorem collectUnits_append (types : Registry) (index : Nat) (units more : List CompilationUnit) :
    collectUnits types index (units ++ more) =
      collectUnits types index units >>= fun types ↦
        collectUnits types (index + units.length) more := by
  unfold collectUnits
  rw [List.zipIdx_append, List.foldlM_append]

theorem keeps_of_collectUnits (h : collectUnits types index units = pure types') :
    types'.Keeps types := by
  induction units generalizing types index with
  | nil =>
    cases h
    exact .refl _
  | cons unit rest ih =>
    rw [collectUnits_cons] at h
    obtain ⟨first, hfirst, hrest⟩ := Resolving.bind_eq_pure_iff.1 h
    exact (ih hrest).trans (keeps_of_collectUnit hfirst)

/-- One of the units declares it. -/
def DeclaredIn (units : List CompilationUnit) (declaration : Declaration) : Prop :=
  ∃ unit ∈ units, ∃ entry, unit.Declares entry declaration

/-- A unit that is loaded without an error, and does not meet a record without a name. -/
structure CompilationUnit.LoadsNamed (unit : CompilationUnit) : Prop where
  loads : unit.Loads
  complete : unit.NamesCompleteRecords
  referred : unit.NamesReferredRecords

/-- The registry of units grows by what they declare. -/
theorem exists_collectUnits (h : ∀ unit ∈ units, unit.LoadsNamed) (types : Registry) (index : Nat) :
    ∃ types', collectUnits types index units = pure types' ∧
      Registry.GrownBy (DeclaredIn units) types types' := by
  induction units generalizing types index with
  | nil => exact ⟨types, rfl, .of_isSome (by simp [DeclaredIn])⟩
  | cons unit rest ih =>
    obtain ⟨hunit, hrest⟩ := List.forall_mem_cons.1 h
    obtain ⟨first, hfirst, hgrown⟩ := hunit.loads.collectUnit hunit.complete hunit.referred types index
    obtain ⟨last, hlast, hgrown'⟩ := ih hrest first (index + 1)
    refine ⟨last, ?_, (hgrown.trans hgrown').congr fun declaration ↦ ?_⟩
    · rw [collectUnits_cons, hfirst, pure_bind, hlast]
    · simp only [DeclaredIn, List.mem_cons, exists_eq_or_imp]

/-- Each of the units can be loaded, every complete record has a name, and what is declared under one
name is the same. -/
structure UnitsAgree (units : List CompilationUnit) : Prop where
  loads : ∀ unit ∈ units, unit.Loads
  complete : ∀ unit ∈ units, unit.NamesCompleteRecords
  unique : ∀ first second, DeclaredIn units first → DeclaredIn units second →
    first.declaredName = second.declaredName → first = second

/-- The registry of units that agree is the same for every order of the units. It has every record that
is complete in one of them, and keeps what it has when other units follow. -/
theorem registryOf_units (h : UnitsAgree units)
    (hnames : ∀ unit ∈ units, unit.NamesReferredRecords) :
    ∃ types, registryOf units = pure types ∧
      (∀ other : List CompilationUnit, other.Perm units →
        ∃ types', registryOf other = pure types' ∧ types'.SameEntries types) ∧
      (∀ unit ∈ units, ∀ entries, unit.entries = .ok entries →
        ∀ record ∈ entries, record.role = .ok .record →
          ∃ layout, unit.Declares record (.record layout) ∧
            types.record? layout.name = some layout) ∧
      (∀ more, (∀ unit ∈ more, unit.LoadsNamed) →
        ∃ types', registryOf (units ++ more) = pure types') ∧
      ∀ more types', registryOf (units ++ more) = pure types' → types'.Keeps types := by
  have hunits : ∀ unit ∈ units, unit.LoadsNamed :=
    fun unit hunit ↦ ⟨h.loads unit hunit, h.complete unit hunit, hnames unit hunit⟩
  obtain ⟨types, hrun, hgrown⟩ := exists_collectUnits hunits .empty 0
  refine ⟨types, hrun, ?_, ?_, ?_, ?_⟩
  · intro other hperm
    obtain ⟨types', hrun', hgrown'⟩ :=
      exists_collectUnits (fun unit hunit ↦ hunits unit (hperm.mem_iff.1 hunit)) .empty 0
    have hdeclared : ∀ declaration, DeclaredIn other declaration ↔ DeclaredIn units declaration := by
      intro declaration
      simp only [DeclaredIn, hperm.mem_iff]
    exact ⟨types', hrun', (hgrown'.congr hdeclared).sameEntries h.unique hgrown⟩
  · intro unit hunit entries hentries record hrecord hrole
    obtain ⟨layout, hlayout⟩ := (h.loads unit hunit).exists_declares (h.complete unit hunit)
      (hnames unit hunit) hentries hrecord hrole
    have hfound := (hgrown.find?_eq_some_iff h.unique).2 ⟨rfl, unit, hunit, record, hlayout⟩
    exact ⟨layout, hlayout, Registry.find?_record_eq_some_iff.1 hfound⟩
  · intro more hmore
    have hall : ∀ unit ∈ units ++ more, unit.LoadsNamed :=
      fun unit hunit ↦ (List.mem_append.1 hunit).elim (hunits unit) (hmore unit)
    obtain ⟨types', hrun', -⟩ := exists_collectUnits hall .empty 0
    exact ⟨types', hrun'⟩
  · intro more types' hrun'
    rw [registryOf_eq_collectUnits, collectUnits_append, hrun, pure_bind] at hrun'
    exact keeps_of_collectUnits hrun'

/-! ## A handle for a record that is declared -/

namespace Handles

/-- A record that is only declared. -/
def declared (attributes : List (AttributeName × AttributeValue)) : Entry :=
  Short.entry 3 .structureType false ((.declaration, .number 1) :: attributes)

def mark : Entry := Short.entry 1 .structureType false [(.name, .text "mark"), (.byteSize, .number 8)]

def handleForest (attributes : List (AttributeName × AttributeValue)) : Forest :=
  .cons Short.root (.cons (Short.definition 1 "handle" 2) .nil <| .cons (Short.pointer 2 3) .nil <|
    .cons (declared attributes) .nil .nil) .nil

def markForest : Forest := .cons Short.root (.cons mark .nil .nil) .nil

/-- A type definition of a pointer to the declared record. -/
def handleUnit (attributes : List (AttributeName × AttributeValue)) : CompilationUnit :=
  (handleForest attributes).unit 5

/-- A complete record. -/
def markUnit : CompilationUnit := markForest.unit 3

variable {attributes : List (AttributeName × AttributeValue)} {recordName : String}

def handleOf (recordName : String) : Declaration := .name "handle" (.pointer (.record recordName))

def markOf : Declaration := .record ⟨"mark", 8, []⟩

theorem lists_mark : markUnit.Lists markForest.entries ∅ := by
  have hlaid : markUnit.LaidOut markForest markUnit.start markUnit.stop :=
    Forest.laidOut_unit (by decide) rfl
  exact ⟨hlaid.entries_eq, rfl⟩

theorem lists_handle (attributes : List (AttributeName × AttributeValue)) :
    (handleUnit attributes).Lists (handleForest attributes).entries ∅ := by
  have hshort : (handleForest attributes).IsShort 0 :=
    ⟨rfl, rfl, ⟨rfl, rfl, rfl, rfl, rfl, rfl, rfl, rfl, rfl, trivial⟩, nofun, trivial⟩
  have hlaid : (handleUnit attributes).LaidOut (handleForest attributes) (handleUnit attributes).start
      (handleUnit attributes).stop := Forest.laidOut_unit hshort rfl
  exact ⟨hlaid.entries_eq, rfl⟩

theorem resolves_handle {named : NamedUnit} (hunit : named.unit = handleUnit attributes)
    (hname : named.recordName (declared attributes) = .ok recordName) :
    named.Resolves 1 (.pointer (.record recordName)) := by
  obtain ⟨unit, index, names⟩ := named
  cases hunit
  have hrecord : (NamedUnit.mk (handleUnit attributes) index names).Resolves 3 (.record recordName) :=
    .alone rfl rfl (NamedUnit.entryType_record rfl hname _)
  have hpointer : (NamedUnit.mk (handleUnit attributes) index names).Resolves 2
      (.pointer (.record recordName)) := .through rfl rfl hrecord rfl
  exact .through rfl rfl hpointer rfl

theorem collectUnit_handle (types : Registry) {index : Nat}
    (hname : (NamedUnit.mk (handleUnit attributes) index ∅).recordName (declared attributes) =
      .ok recordName) :
    collectUnit types index (handleUnit attributes) =
      pure (types.declare (some (handleOf recordName))) := by
  let named : NamedUnit := ⟨handleUnit attributes, index, ∅⟩
  have htype : named.Resolves (Short.definition 1 "handle" 2).offset (.pointer (.record recordName)) :=
    resolves_handle rfl hname
  obtain ⟨cache, hdefine, -⟩ :=
    NamedUnit.yields_defineName htype types "handle" ∅ NamedUnit.sound_empty
  have hrun : (handleForest attributes).entries.foldlM named.collectEntry types =
      named.defineName types "handle" (Short.definition 1 "handle" 2) >>= pure := rfl
  refine CompilationUnit.collectUnit_eq_pure_iff.2 ⟨_, _, cache, lists_handle attributes, ?_⟩
  rw [hrun, bind_pure, hdefine]
  rfl

theorem collectUnit_mark (types : Registry) (index : Nat) :
    collectUnit types index markUnit = pure (types.declare (some markOf)) := by
  have hlayout : (NamedUnit.mk markUnit index ∅).recordLayout mark = pure ⟨"mark", 8, []⟩ := rfl
  have hcollect : (NamedUnit.mk markUnit index ∅).collectEntry types mark =
      pure (types.declare (some markOf)) := by
    have hrole : mark.role = .ok .record := rfl
    rw [NamedUnit.collectEntry_eq_role, hrole, CachedResolving.liftM_ok, pure_bind]
    dsimp only
    rw [hlayout, pure_bind]
    rfl
  have hrun : markForest.entries.foldlM (NamedUnit.mk markUnit index ∅).collectEntry types =
      (NamedUnit.mk markUnit index ∅).collectEntry types mark >>= pure := rfl
  rw [bind_pure, hcollect] at hrun
  refine CompilationUnit.collectUnit_eq_pure_iff.2 ⟨_, _, ∅, lists_mark, ?_⟩
  rw [hrun]
  rfl

theorem eq_or_role_eq_of_handle (h : entry ∈ (handleForest attributes).entries) :
    entry = Short.definition 1 "handle" 2 ∨ entry.role = .ok .nothing := by
  have hentries : (handleForest attributes).entries =
      [Short.root, Short.definition 1 "handle" 2, Short.pointer 2 3, declared attributes] := rfl
  simp only [hentries, List.mem_cons, List.not_mem_nil, or_false] at h
  rcases h with rfl | rfl | rfl | rfl
  · exact .inr rfl
  · exact .inl rfl
  · exact .inr rfl
  · exact .inr rfl

theorem eq_or_role_eq_of_mark (h : entry ∈ markForest.entries) :
    entry = mark ∨ entry.role = .ok .nothing := by
  have hentries : markForest.entries = [Short.root, mark] := rfl
  simp only [hentries, List.mem_cons, List.not_mem_nil, or_false] at h
  rcases h with rfl | rfl
  · exact .inr rfl
  · exact .inl rfl

theorem declares_handle (hname : (NamedUnit.mk (handleUnit attributes) 0 ∅).recordName
      (declared attributes) = .ok recordName) {declaration : Declaration}
    (h : (handleUnit attributes).Declares entry declaration) : declaration = handleOf recordName := by
  obtain ⟨entries, hentries, hentry⟩ := h.exists_entries
  cases (lists_handle attributes).entries_eq.symm.trans hentries
  rcases eq_or_role_eq_of_handle hentry with rfl | hrole
  · obtain ⟨cache, hrun, -⟩ :=
      NamedUnit.yields_typeAt (resolves_handle rfl hname) ∅ NamedUnit.sound_empty
    exact h.unique (.name (lists_handle attributes) hentry rfl hrun)
  · exact absurd hrole h.role_ne_nothing

theorem declares_mark {declaration : Declaration} (h : markUnit.Declares entry declaration) :
    declaration = markOf := by
  obtain ⟨entries, hentries, hentry⟩ := h.exists_entries
  cases lists_mark.entries_eq.symm.trans hentries
  rcases eq_or_role_eq_of_mark hentry with rfl | hrole
  · exact h.unique (.record lists_mark hentry rfl rfl)
  · exact absurd hrole h.role_ne_nothing

theorem namesCompleteRecords_handle (attributes : List (AttributeName × AttributeValue)) :
    (handleUnit attributes).NamesCompleteRecords := by
  intro entries hentries record hrecord hrole
  cases (lists_handle attributes).entries_eq.symm.trans hentries
  rcases eq_or_role_eq_of_handle hrecord with rfl | hnothing
  · cases hrole
  · cases hnothing.symm.trans hrole

theorem namesCompleteRecords_mark : markUnit.NamesCompleteRecords := by
  intro entries hentries record hrecord hrole
  cases lists_mark.entries_eq.symm.trans hentries
  rcases eq_or_role_eq_of_mark hrecord with rfl | hnothing
  · exact .inl ⟨"mark", rfl⟩
  · cases hnothing.symm.trans hrole

/-- The units declare different names. -/
theorem unitsAgree (hname : (NamedUnit.mk (handleUnit attributes) 0 ∅).recordName
      (declared attributes) = .ok recordName) : UnitsAgree [handleUnit attributes, markUnit] where
  loads := by
    have hhandle : (handleUnit attributes).Loads :=
      ⟨_, (bind_pure _).trans (collectUnit_handle .empty hname)⟩
    have hmark : markUnit.Loads := ⟨_, (bind_pure _).trans (collectUnit_mark .empty 0)⟩
    exact List.forall_mem_cons.2 ⟨hhandle, List.forall_mem_singleton.2 hmark⟩
  complete := List.forall_mem_cons.2
    ⟨namesCompleteRecords_handle attributes, List.forall_mem_singleton.2 namesCompleteRecords_mark⟩
  unique := by
    have hdeclared : ∀ declaration, DeclaredIn [handleUnit attributes, markUnit] declaration →
        declaration = handleOf recordName ∨ declaration = markOf := by
      intro declaration h
      simp only [DeclaredIn, List.mem_cons, List.not_mem_nil, or_false, exists_eq_or_imp,
        exists_eq_left] at h
      rcases h with ⟨entry, h⟩ | ⟨entry, h⟩
      · exact .inl (declares_handle hname h)
      · exact .inr (declares_mark h)
    intro first second hfirst hsecond hsame
    rcases hdeclared first hfirst with rfl | rfl <;> rcases hdeclared second hsecond with rfl | rfl
    · rfl
    · cases hsame
    · cases hsame
    · rfl

theorem registryOf_handle_mark (hname : (NamedUnit.mk (handleUnit attributes) 0 ∅).recordName
      (declared attributes) = .ok recordName) : registryOf [handleUnit attributes, markUnit] =
    pure ((Registry.empty.declare (some (handleOf recordName))).declare (some markOf)) := by
  rw [registryOf_eq_collectUnits, collectUnits_cons, collectUnit_handle .empty hname, pure_bind,
    collectUnits_cons, collectUnit_mark, pure_bind]
  rfl

theorem registryOf_mark_handle (hname : (NamedUnit.mk (handleUnit attributes) 1 ∅).recordName
      (declared attributes) = .ok recordName) : registryOf [markUnit, handleUnit attributes] =
    pure ((Registry.empty.declare (some markOf)).declare (some (handleOf recordName))) := by
  rw [registryOf_eq_collectUnits, collectUnits_cons, collectUnit_mark, pure_bind, collectUnits_cons,
    collectUnit_handle _ hname, pure_bind]
  rfl

/-- The record that the handle is for has a name, though it is only declared there. -/
theorem namesReferredRecords_handle :
    (handleUnit [(.name, .text "mark")]).NamesReferredRecords :=
  .of_forall (by decide)

theorem namesReferredRecords_mark : markUnit.NamesReferredRecords :=
  .of_forall (by decide)

end Handles

/-- A handle for a record that is declared in one unit and complete in the next. -/
theorem registryOf_units_handle :
    UnitsAgree [Handles.handleUnit [(.name, .text "mark")], Handles.markUnit] ∧
    (∀ unit ∈ [Handles.handleUnit [(.name, .text "mark")], Handles.markUnit],
      unit.NamesReferredRecords) ∧
    ∃ types, registryOf [Handles.handleUnit [(.name, .text "mark")], Handles.markUnit] = pure types ∧
      (∀ other : List CompilationUnit,
        other.Perm [Handles.handleUnit [(.name, .text "mark")], Handles.markUnit] →
          ∃ types', registryOf other = pure types' ∧ types'.SameEntries types) ∧
      (∀ unit ∈ [Handles.handleUnit [(.name, .text "mark")], Handles.markUnit],
        ∀ entries, unit.entries = .ok entries → ∀ record ∈ entries, record.role = .ok .record →
          ∃ layout, unit.Declares record (.record layout) ∧
            types.record? layout.name = some layout) ∧
      (∀ more, (∀ unit ∈ more, unit.LoadsNamed) → ∃ types',
        registryOf ([Handles.handleUnit [(.name, .text "mark")], Handles.markUnit] ++ more) =
          pure types') ∧
      ∀ more types',
        registryOf ([Handles.handleUnit [(.name, .text "mark")], Handles.markUnit] ++ more) =
          pure types' → types'.Keeps types := by
  have hname : (NamedUnit.mk (Handles.handleUnit [(.name, .text "mark")]) 0 ∅).recordName
      (Handles.declared [(.name, .text "mark")]) = .ok "mark" := rfl
  have hunits := Handles.unitsAgree hname
  have hnames : ∀ unit ∈ [Handles.handleUnit [(.name, .text "mark")], Handles.markUnit],
      unit.NamesReferredRecords :=
    List.forall_mem_cons.2 ⟨Handles.namesReferredRecords_handle,
      List.forall_mem_singleton.2 Handles.namesReferredRecords_mark⟩
  exact ⟨hunits, hnames, registryOf_units hunits hnames⟩

/-- A record without a name that is only declared is called by the place of its unit. -/
theorem registryOf_units_ne_handle :
    UnitsAgree [Handles.handleUnit [], Handles.markUnit] ∧
    [Handles.markUnit, Handles.handleUnit []].Perm [Handles.handleUnit [], Handles.markUnit] ∧
    ∃ types types', registryOf [Handles.handleUnit [], Handles.markUnit] = pure types ∧
      registryOf [Handles.markUnit, Handles.handleUnit []] = pure types' ∧
      types.definition? "handle" = some (.pointer (.record "<anonymous 0:0x3>")) ∧
      types'.definition? "handle" = some (.pointer (.record "<anonymous 1:0x3>")) ∧
      ¬ types'.SameEntries types := by
  have hfirst : (NamedUnit.mk (Handles.handleUnit []) 0 ∅).recordName (Handles.declared []) =
      .ok "<anonymous 0:0x3>" := by decide +kernel
  have hsecond : (NamedUnit.mk (Handles.handleUnit []) 1 ∅).recordName (Handles.declared []) =
      .ok "<anonymous 1:0x3>" := by decide +kernel
  have htype : ((Registry.empty.declare (some (Handles.handleOf "<anonymous 0:0x3>"))).declare
      (some Handles.markOf)).definition? "handle" =
        some (.pointer (.record "<anonymous 0:0x3>")) := by
    decide +kernel
  have htype' : ((Registry.empty.declare (some Handles.markOf)).declare
      (some (Handles.handleOf "<anonymous 1:0x3>"))).definition? "handle" =
        some (.pointer (.record "<anonymous 1:0x3>")) := by
    decide +kernel
  refine ⟨Handles.unitsAgree hfirst, .swap _ _ _, _, _, Handles.registryOf_handle_mark hfirst,
    Handles.registryOf_mark_handle hsecond, htype, htype', ?_⟩
  intro hsame
  have heq := hsame.definition?_eq "handle"
  rw [htype, htype'] at heq
  exact absurd heq (by decide)

end MemoryInspector.DebugInfo
