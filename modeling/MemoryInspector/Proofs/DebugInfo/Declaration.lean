import MemoryInspector.Proofs.DebugInfo.Layout

/-!
# Declarations of well-formed units

The entries of a well-formed unit declare layouts of records and names of types. In the registry of
the unit each name has what the first entry with a declaration of it declares, records and names of
types being kept apart.
-/

namespace MemoryInspector

/-- What one entry adds to a registry. -/
inductive Declaration where
  | record (layout : RecordLayout)
  | name (name : String) (type : CType)

namespace Declaration

/-- The layout, if it is of a record of that name. -/
def layout? (name : String) : Declaration → Option RecordLayout
  | record layout => if layout.name = name then some layout else none
  | .name _ _ => none

/-- The type, if it is declared under that name. -/
def type? (name : String) : Declaration → Option CType
  | record _ => none
  | .name declared type => if declared = name then some type else none

end Declaration

namespace Registry

variable {types : Registry} {name : String}

/-- Add a declaration, unless there is one of that name. -/
def declare (types : Registry) : Option Declaration → Registry
  | none => types
  | some (.record layout) =>
    if (types.record? layout.name).isSome then types else types.addRecord layout
  | some (.name name type) =>
    if (types.definition? name).isSome then types else types.define name type

theorem record?_declare (declaration? : Option Declaration) :
    (types.declare declaration?).record? name =
      (types.record? name).or (declaration?.bind (·.layout? name)) := by
  cases declaration? with
  | none => exact Option.or_none.symm
  | some declaration =>
    cases declaration with
    | record layout =>
      dsimp only [declare]
      rw [Option.bind_some, Declaration.layout?]
      by_cases hname : layout.name = name
      · rw [if_pos hname, hname]
        cases hfound : types.record? name with
        | some found => simp [hfound]
        | none => simp [record?_addRecord, hname]
      · rw [if_neg hname, Option.or_none]
        split
        · rfl
        · rw [record?_addRecord, if_neg hname]
    | name declared type =>
      dsimp only [declare]
      rw [Option.bind_some, Declaration.layout?, Option.or_none]
      split <;> rfl

theorem definition?_declare (declaration? : Option Declaration) :
    (types.declare declaration?).definition? name =
      (types.definition? name).or (declaration?.bind (·.type? name)) := by
  cases declaration? with
  | none => exact Option.or_none.symm
  | some declaration =>
    cases declaration with
    | record layout =>
      dsimp only [declare]
      rw [Option.bind_some, Declaration.type?, Option.or_none]
      split <;> rfl
    | name declared type =>
      dsimp only [declare]
      rw [Option.bind_some, Declaration.type?]
      by_cases hname : declared = name
      · rw [if_pos hname, hname]
        cases hfound : types.definition? name with
        | some found => simp [hfound]
        | none => simp [definition?_define]
      · rw [if_neg hname, Option.or_none]
        split
        · rfl
        · rw [definition?_define, if_neg hname]

section Fold

variable {α : Type} (declarationOf : α → Option Declaration) (elements : List α)

theorem record?_foldl_declare (types : Registry) :
    (elements.foldl (fun types element ↦ types.declare (declarationOf element)) types).record? name =
      (types.record? name).or
        (elements.findSome? fun element ↦ (declarationOf element).bind (·.layout? name)) := by
  induction elements generalizing types with
  | nil => exact Option.or_none.symm
  | cons element rest ih =>
    rw [List.foldl_cons, ih, record?_declare, Option.or_assoc, List.findSome?_cons]
    cases (declarationOf element).bind (·.layout? name) <;> rfl

theorem definition?_foldl_declare (types : Registry) :
    (elements.foldl (fun types element ↦ types.declare (declarationOf element)) types).definition?
      name = (types.definition? name).or
        (elements.findSome? fun element ↦ (declarationOf element).bind (·.type? name)) := by
  induction elements generalizing types with
  | nil => exact Option.or_none.symm
  | cons element rest ih =>
    rw [List.foldl_cons, ih, definition?_declare, Option.or_assoc, List.findSome?_cons]
    cases (declarationOf element).bind (·.type? name) <;> rfl

end Fold

end Registry

/-- In a list in the order of positions, the first result is the one at the lowest position. -/
theorem findSome?_eq_some_iff_of_pairwise {α β : Type} {position : α → Nat} {f : α → Option β}
    {elements : List α} {b : β}
    (h : elements.Pairwise fun first second ↦ position first < position second) :
    elements.findSome? f = some b ↔ ∃ a ∈ elements, f a = some b ∧
      ∀ other ∈ elements, position other < position a → f other = none := by
  rw [List.findSome?_eq_some_iff]
  constructor
  · rintro ⟨before, a, after, rfl, hresult, hbefore⟩
    refine ⟨a, by simp, hresult, ?_⟩
    intro other hother hlt
    rw [List.pairwise_append, List.pairwise_cons] at h
    rcases List.mem_append.1 hother with hother | hother
    · exact hbefore other hother
    · rcases List.mem_cons.1 hother with rfl | hother
      · exact absurd hlt (Nat.lt_irrefl _)
      · exact absurd hlt (Nat.lt_asymm (h.2.1.1 other hother))
  · rintro ⟨a, ha, hresult, hlower⟩
    obtain ⟨before, after, rfl⟩ := List.append_of_mem ha
    refine ⟨before, a, after, rfl, hresult, ?_⟩
    intro other hother
    rw [List.pairwise_append] at h
    exact hlower other (List.mem_append_left _ hother) (h.2.2 other hother a List.mem_cons_self)

namespace DebugInfo

variable {unit : CompilationUnit} {named : NamedUnit} {forest below : Forest}
  {entry record : Entry} {tree : Entry × Forest} {index : Nat} {layout : RecordLayout}
  {declaration? : Option Declaration}

/-! ## Entries -/

/-- The name under which the entry declares a type. The name of a base type may be one of those that
mean the same in every registry. -/
def Entry.declaredName? (entry : Entry) : Option String :=
  match entry.tag with
  | .typeDefinition => entry.title?
  | .baseType => entry.title?.filter fun name ↦ (Scalar.ofCName? name).isNone
  | _ => none

theorem Entry.declaredName?_of_isRecord (h : entry.tag.isRecord = true) :
    entry.declaredName? = none := by
  unfold declaredName?
  cases htag : entry.tag <;> rw [htag] at h <;> first | rfl | exact absurd h Bool.false_ne_true

/-- What an entry with these entries below it declares. -/
inductive Forest.Declares (forest : Forest) (index : Nat) :
    Entry × Forest → Option Declaration → Prop
  | record {record : Entry} {below : Forest} {layout : RecordLayout} (hcomplete : record.IsComplete)
      (hlayout : forest.LayoutOf index record below layout) :
      Declares forest index (record, below) (some (.record layout))
  | name {entry : Entry} {below : Forest} {name : String} {type : CType}
      (hname : entry.declaredName? = some name)
      (htype : forest.Means index (some (.reference entry.offset)) type) :
      Declares forest index (entry, below) (some (.name name type))
  | nothing {entry : Entry} {below : Forest} (hcomplete : ¬ entry.IsComplete)
      (hname : entry.declaredName? = none) : Declares forest index (entry, below) none

theorem CompilationUnit.WellFormed.exists_declares (h : unit.WellFormed forest) (index : Nat)
    (htree : tree ∈ forest.subtrees) : ∃ declaration?, forest.Declares index tree declaration? := by
  obtain ⟨entry, below⟩ := tree
  have hentry := Forest.mem_entries_of_mem_subtrees htree
  by_cases hcomplete : entry.IsComplete
  · obtain ⟨layout, hlayout⟩ := h.exists_layoutOf index htree
    exact ⟨_, .record hcomplete hlayout⟩
  · cases hname : entry.declaredName? with
    | none => exact ⟨none, .nothing hcomplete hname⟩
    | some name =>
      obtain ⟨type, htype⟩ := h.exists_means_reference index hentry
      exact ⟨_, .name hname htype⟩

namespace NamedUnit

variable {name : String} {types : Registry}

theorem yields_collectEntry_name {type : CType} (hnamed : named.IsFor forest)
    (hentry : entry ∈ forest.entries) (hname : entry.declaredName? = some name)
    (htype : named.Resolves entry.offset type) :
    named.Yields (named.collectEntry types entry) (types.declare (some (.name name type))) := by
  have hread := hnamed.wellFormed.name_eq hentry
  unfold Entry.declaredName? at hname
  unfold collectEntry
  cases htag : entry.tag <;> rw [htag] at hname <;> dsimp only at hname ⊢ <;> try cases hname
  case typeDefinition =>
    rw [hread, hname]
    exact yields_defineName htype types name
  case baseType =>
    obtain ⟨htitle, hnone⟩ := Option.filter_eq_some_iff.1 hname
    rw [hread, htitle]
    simp only [CachedResolving.liftM_ok, pure_bind]
    rw [if_neg (by simpa using hnone)]
    exact yields_defineName htype types name

theorem yields_collectEntry_nothing (hnamed : named.IsFor forest) (hentry : entry ∈ forest.entries)
    (hcomplete : ¬ entry.IsComplete) (hname : entry.declaredName? = none) :
    named.Yields (named.collectEntry types entry) types := by
  have hread := hnamed.wellFormed.name_eq hentry
  have hdeclaration : entry.tag.isRecord = true →
      ∃ value, entry.value .declaration = .ok (some value) := by
    intro hkind
    obtain ⟨value, hvalue⟩ := Option.ne_none_iff_exists'.1 fun hnone ↦ hcomplete ⟨hkind, hnone⟩
    exact ⟨value, by rw [hnamed.wellFormed.value_eq hentry, hvalue]⟩
  unfold Entry.declaredName? at hname
  unfold collectEntry
  cases htag : entry.tag <;> rw [htag] at hname hdeclaration <;> dsimp only at hname ⊢
  case structureType | unionType | classType =>
    obtain ⟨value, hvalue⟩ := hdeclaration rfl
    rw [hvalue]
    exact Yields.pure types
  case typeDefinition =>
    rw [hread, hname]
    exact Yields.pure types
  case baseType =>
    rw [hread]
    cases htitle : entry.title? with
    | none => exact Yields.pure types
    | some name =>
      rw [htitle, Option.filter_eq_none_iff] at hname
      simp only [CachedResolving.liftM_ok, pure_bind]
      rw [if_pos (Option.isSome_iff_ne_none.2 (by simpa using hname name rfl))]
      exact Yields.pure types
  all_goals exact Yields.pure types

end NamedUnit

/-- An entry adds what it declares. -/
theorem Forest.Declares.yields_collectEntry (h : forest.Declares named.index tree declaration?)
    (hnamed : named.IsFor forest) (htree : tree ∈ forest.subtrees) (types : Registry) :
    named.Yields (named.collectEntry types tree.1) (types.declare declaration?) := by
  have hentry := Forest.mem_entries_of_mem_subtrees htree
  cases h with
  | record hcomplete hlayout =>
    have hdeclaration := hnamed.wellFormed.value_eq hentry .declaration
    rw [hcomplete.2] at hdeclaration
    exact NamedUnit.yields_collectEntry_record hcomplete.1 hdeclaration
      (hlayout.yields_recordLayout hnamed htree hcomplete.1) types
  | name hname htype =>
    exact NamedUnit.yields_collectEntry_name hnamed hentry hname (htype.resolves hnamed rfl)
  | nothing hcomplete hname =>
    exact NamedUnit.yields_collectEntry_nothing hnamed hentry hcomplete hname

namespace Forest.Declares

variable {name : String}

theorem layout?_eq_none_iff (h : forest.Declares index tree declaration?) :
    declaration?.bind (·.layout? name) = none ↔
      (tree.1.IsComplete → forest.recordName index tree.1 ≠ name) := by
  cases h with
  | record hcomplete hlayout =>
    simp [Declaration.layout?, hlayout.name_eq, hcomplete]
  | name hname =>
    refine iff_of_true rfl fun hcomplete ↦ ?_
    rw [Entry.declaredName?_of_isRecord hcomplete.1] at hname
    cases hname
  | nothing hcomplete => exact iff_of_true rfl fun h ↦ absurd h hcomplete

theorem layout?_eq_some_iff (hunit : unit.WellFormed forest)
    (h : forest.Declares index tree declaration?) :
    declaration?.bind (·.layout? name) = some layout ↔ tree.1.IsComplete ∧
      forest.recordName index tree.1 = name ∧ forest.LayoutOf index tree.1 tree.2 layout := by
  cases hfound : declaration?.bind (·.layout? name) with
  | none =>
    refine iff_of_false nofun ?_
    rintro ⟨hcomplete, hname, -⟩
    exact h.layout?_eq_none_iff.1 hfound hcomplete hname
  | some found =>
    cases h with
    | record hcomplete hlayout =>
      rw [Option.bind_some, Declaration.layout?] at hfound
      split at hfound
      · next hname =>
        cases hfound
        rw [hlayout.name_eq] at hname
        constructor
        · rintro ⟨⟩
          exact ⟨hcomplete, hname, hlayout⟩
        · rintro ⟨-, -, hother⟩
          exact congrArg some (hlayout.unique hunit hother)
      · cases hfound
    | name | nothing => cases hfound

theorem type?_eq_none_iff (h : forest.Declares index tree declaration?) :
    declaration?.bind (·.type? name) = none ↔ tree.1.declaredName? ≠ some name := by
  cases h with
  | record hcomplete =>
    refine iff_of_true rfl ?_
    rw [Entry.declaredName?_of_isRecord hcomplete.1]
    nofun
  | name hname => simp [Declaration.type?, hname]
  | nothing _ hname => simp [hname]

theorem type?_eq_some_iff {type : CType} (hunit : unit.WellFormed forest)
    (h : forest.Declares index tree declaration?) :
    declaration?.bind (·.type? name) = some type ↔ tree.1.declaredName? = some name ∧
      forest.Means index (some (.reference tree.1.offset)) type := by
  cases hfound : declaration?.bind (·.type? name) with
  | none =>
    refine iff_of_false nofun ?_
    rintro ⟨hname, -⟩
    exact h.type?_eq_none_iff.1 hfound hname
  | some found =>
    cases h with
    | name hname htype =>
      rw [Option.bind_some, Declaration.type?] at hfound
      split at hfound
      · next heq =>
        cases hfound
        cases heq
        constructor
        · rintro ⟨⟩
          exact ⟨hname, htype⟩
        · rintro ⟨-, hother⟩
          exact congrArg some (htype.unique hunit hother)
      · cases hfound
    | record | nothing => cases hfound

end Forest.Declares

/-! ## The registry of a unit -/

/-- The record is the first complete one that has the name. -/
structure Forest.FirstRecord (forest : Forest) (index : Nat) (name : String) (record : Entry) :
    Prop where
  isComplete : record.IsComplete
  name_eq : forest.recordName index record = name
  first : ∀ other ∈ forest.entries, other.offset < record.offset → other.IsComplete →
    forest.recordName index other ≠ name

/-- The entry is the first one that declares a type under the name. -/
structure Forest.FirstName (forest : Forest) (name : String) (entry : Entry) : Prop where
  declaredName?_eq : entry.declaredName? = some name
  first : ∀ other ∈ forest.entries, other.offset < entry.offset → other.declaredName? ≠ some name

/-- Of the entries with a property, one is the first. -/
theorem Forest.exists_first {holds : Entry → Prop} (hentry : entry ∈ forest.entries)
    (h : holds entry) : ∃ first ∈ forest.entries, holds first ∧ first.offset ≤ entry.offset ∧
      ∀ other ∈ forest.entries, other.offset < first.offset → ¬ holds other := by
  generalize hoffset : entry.offset = offset
  induction offset using Nat.strong_induction_on generalizing entry with
  | _ offset ih =>
    subst hoffset
    by_cases hearlier : ∃ other ∈ forest.entries, other.offset < entry.offset ∧ holds other
    · obtain ⟨other, hother, hlt, hholds⟩ := hearlier
      obtain ⟨first, hfirst, hproperty, hle, hlower⟩ := ih _ hlt hother hholds rfl
      exact ⟨first, hfirst, hproperty, hle.trans (Nat.le_of_lt hlt), hlower⟩
    · refine ⟨entry, hentry, h, Nat.le_refl _, ?_⟩
      intro other hother hlt hholds
      exact hearlier ⟨other, hother, hlt, hholds⟩

/-- There is a first record of each name that a complete record has. -/
theorem Forest.exists_firstRecord {name : String} (hrecord : record ∈ forest.entries)
    (hcomplete : record.IsComplete) (hname : forest.recordName index record = name) :
    ∃ first ∈ forest.entries, forest.FirstRecord index name first ∧
      first.offset ≤ record.offset := by
  let Named (record : Entry) : Prop := record.IsComplete ∧ forest.recordName index record = name
  have hnamed : Named record := ⟨hcomplete, hname⟩
  obtain ⟨first, hfirst, ⟨hkind, hsame⟩, hle, hlower⟩ := Forest.exists_first hrecord hnamed
  refine ⟨first, hfirst, ⟨hkind, hsame, ?_⟩, hle⟩
  exact fun other hother hlt hcomplete hname ↦ hlower other hother hlt ⟨hcomplete, hname⟩

/-- There is a first entry for each name that is declared. -/
theorem Forest.exists_firstName {name : String} (hentry : entry ∈ forest.entries)
    (hname : entry.declaredName? = some name) :
    ∃ first ∈ forest.entries, forest.FirstName name first := by
  let Named (entry : Entry) : Prop := entry.declaredName? = some name
  have hnamed : Named entry := hname
  obtain ⟨first, hfirst, hdeclared, -, hlower⟩ := Forest.exists_first hentry hnamed
  exact ⟨first, hfirst, hdeclared, hlower⟩

/-- Only one entry is the first for a name. -/
theorem Forest.FirstName.eq_of_firstName (hunit : unit.WellFormed forest) {name : String}
    {other : Entry} (h : forest.FirstName name entry) (hother : forest.FirstName name other)
    (hentry : entry ∈ forest.entries) (hmem : other ∈ forest.entries) : entry = other := by
  apply hunit.eq_of_offset_eq hentry hmem
  apply Nat.le_antisymm
  · exact Nat.le_of_not_lt fun hlt ↦ h.first other hmem hlt hother.declaredName?_eq
  · exact Nat.le_of_not_lt fun hlt ↦ hother.first entry hentry hlt h.declaredName?_eq

/-- The registry of a well-formed unit has the layout of the first record of each name, and the type
of the first entry that declares one under each name. -/
theorem CompilationUnit.WellFormed.exists_registry (h : unit.WellFormed forest) :
    ∃ types, registryOf [unit] = pure types ∧
      (∀ name layout, types.record? name = some layout ↔ ∃ record below,
        (record, below) ∈ forest.subtrees ∧ forest.FirstRecord 0 name record ∧
          forest.LayoutOf 0 record below layout) ∧
      ∀ name type, types.definition? name = some type ↔ ∃ entry ∈ forest.entries,
        forest.FirstName name entry ∧ forest.Means 0 (some (.reference entry.offset)) type := by
  obtain ⟨names, hnames, hnamed⟩ := h.exists_isFor 0
  choose! declarationOf hdeclares using fun tree (htree : tree ∈ forest.subtrees) ↦
    h.exists_declares 0 htree
  have hyields : (NamedUnit.mk unit 0 names).Yields
      (forest.entries.foldlM (NamedUnit.mk unit 0 names).collectEntry .empty)
      (forest.subtrees.foldl (fun types tree ↦ types.declare (declarationOf tree)) .empty) := by
    rw [← forest.map_fst_subtrees, List.foldlM_map]
    apply NamedUnit.Yields.foldlM
    intro tree htree types
    exact (hdeclares tree htree).yields_collectEntry hnamed htree types
  refine ⟨_, registryOf_of_yields h.entries_eq hnames hyields, ?_, ?_⟩
  · intro name layout
    have hempty : Registry.empty.record? name = none := rfl
    rw [Registry.record?_foldl_declare, hempty, Option.none_or,
      findSome?_eq_some_iff_of_pairwise h.laidOut.pairwise_offset]
    constructor
    · rintro ⟨⟨record, below⟩, htree, hfound, hlower⟩
      obtain ⟨hcomplete, hname, hlayout⟩ := ((hdeclares _ htree).layout?_eq_some_iff h).1 hfound
      refine ⟨record, below, htree, ⟨hcomplete, hname, ?_⟩, hlayout⟩
      intro other hother hlt
      obtain ⟨inner, hinner⟩ := Forest.exists_mem_subtrees hother
      exact (hdeclares _ hinner).layout?_eq_none_iff.1 (hlower _ hinner hlt)
    · rintro ⟨record, below, htree, ⟨hcomplete, hname, hfirst⟩, hlayout⟩
      refine ⟨_, htree, ((hdeclares _ htree).layout?_eq_some_iff h).2 ⟨hcomplete, hname, hlayout⟩, ?_⟩
      intro other hother hlt
      exact (hdeclares _ hother).layout?_eq_none_iff.2
        (hfirst _ (Forest.mem_entries_of_mem_subtrees hother) hlt)
  · intro name type
    have hempty : Registry.empty.definition? name = none := rfl
    rw [Registry.definition?_foldl_declare, hempty, Option.none_or,
      findSome?_eq_some_iff_of_pairwise h.laidOut.pairwise_offset]
    constructor
    · rintro ⟨⟨entry, below⟩, htree, hfound, hlower⟩
      obtain ⟨hname, htype⟩ := ((hdeclares _ htree).type?_eq_some_iff h).1 hfound
      refine ⟨entry, Forest.mem_entries_of_mem_subtrees htree, ⟨hname, ?_⟩, htype⟩
      intro other hother hlt
      obtain ⟨inner, hinner⟩ := Forest.exists_mem_subtrees hother
      exact (hdeclares _ hinner).type?_eq_none_iff.1 (hlower _ hinner hlt)
    · rintro ⟨entry, hentry, ⟨hname, hfirst⟩, htype⟩
      obtain ⟨below, htree⟩ := Forest.exists_mem_subtrees hentry
      refine ⟨_, htree, ((hdeclares _ htree).type?_eq_some_iff h).2 ⟨hname, htype⟩, ?_⟩
      intro other hother hlt
      exact (hdeclares _ hother).type?_eq_none_iff.2
        (hfirst _ (Forest.mem_entries_of_mem_subtrees hother) hlt)

/-- Something is stored under each name that is declared. -/
theorem CompilationUnit.WellFormed.exists_definition? (h : unit.WellFormed forest) {types : Registry}
    {name : String}
    (hdefinition : ∀ name type, types.definition? name = some type ↔ ∃ entry ∈ forest.entries,
      forest.FirstName name entry ∧ forest.Means 0 (some (.reference entry.offset)) type)
    (hentry : entry ∈ forest.entries) (hname : entry.declaredName? = some name) :
    ∃ type, types.definition? name = some type := by
  obtain ⟨first, hmem, hfirst⟩ := Forest.exists_firstName hentry hname
  obtain ⟨type, htype⟩ := h.exists_means_reference 0 hmem
  exact ⟨type, (hdefinition name type).2 ⟨first, hmem, hfirst, htype⟩⟩

end DebugInfo

end MemoryInspector
