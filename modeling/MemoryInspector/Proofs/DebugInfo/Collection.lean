import MemoryInspector.Proofs.DebugInfo.Members
import MemoryInspector.Proofs.DebugInfo.Short
import MemoryInspector.Proofs.Registry

/-!
# Collection of described records

The registry of a unit that describes records has these records and no others. What an entry
declares is added to the records that are already there, whatever the order of the entries.
-/

namespace MemoryInspector

/-- The records are still there, perhaps among others. -/
def Registry.Extends (other types : Registry) : Prop :=
  ∀ name layout, types.record? name = some layout → other.record? name = some layout

theorem Registry.Extends.trans {first second third : Registry} (h : third.Extends second)
    (h' : second.Extends first) : third.Extends first :=
  fun name layout hlayout ↦ h name layout (h' name layout hlayout)

namespace DebugInfo

section Described

variable {unit : CompilationUnit} {named : NamedUnit} {root entry : Entry} {tops below : Forest}
  {records : List RecordDescription} {start stop : Nat} {position? : Option Nat} {types : Registry}

/-! ## The entries of a described unit -/

/-- Whether entries of that tag declare a record or may declare a name. -/
def Tag.declares : Tag → Bool
  | structureType | unionType | classType | typeDefinition | baseType => true
  | _ => false

theorem Tag.declares_of_isRecord {tag : Tag} (h : tag.isRecord = true) : tag.declares = true := by
  cases tag <;> first | rfl | exact absurd h Bool.false_ne_true

theorem CompilationUnit.LaidOut.exists_below (h : unit.LaidOut (.cons root tops .nil) start stop) :
    ∃ start stop, unit.LaidOut tops start stop := by
  cases h with
  | leaf => exact ⟨0, 0, .nil 0⟩
  | branch _ _ hchildren => exact ⟨_, _, hchildren⟩

/-- At a position stands one entry. -/
theorem eq_of_offset_eq {other : Entry} {inner : Forest} (hlaid : unit.LaidOut tops start stop)
    (htree : (entry, below) ∈ tops.trees) (hother : (other, inner) ∈ tops.trees)
    (hoffset : other.offset = entry.offset) : other = entry := by
  have hentry := (hlaid.entryAt_and_children htree).1
  have hsame := (hlaid.entryAt_and_children hother).1
  rw [hoffset, hentry] at hsame
  exact (Except.ok.inj hsame).symm

theorem Entry.value_name_eq {name : String} (h : entry.name = .ok (some name)) :
    entry.value .name = .ok (some (.text name)) := by
  unfold Entry.name at h
  cases hvalue : entry.value .name with
  | error e =>
    rw [hvalue] at h
    cases h
  | ok value =>
    rw [hvalue] at h
    cases value with
    | none => cases h
    | some value =>
      cases value <;> cases h
      rfl

/-- A type definition or a base type has a name, and a type definition refers to a type. -/
theorem Denotes.exists_name {type : TypeDescription} (hlaid : unit.LaidOut tops start stop)
    (htree : (entry, below) ∈ tops.trees) (h : Denotes tops position? type)
    (hposition : position? = some entry.offset)
    (htag : entry.tag = .typeDefinition ∨ entry.tag = .baseType) :
    ∃ name, entry.name = .ok (some name) ∧ (entry.tag = .typeDefinition →
      ∃ target? type, entry.RefersTo target? ∧ Denotes tops target? type) := by
  cases h with
  | void => cases hposition
  | base hother hkind hname =>
    cases eq_of_offset_eq hlaid htree hother (Option.some.inj hposition)
    refine ⟨_, hname, fun hdefinition ↦ ?_⟩
    cases hdefinition.symm.trans hkind
  | definition hother _ hname hrefers htype =>
    cases eq_of_offset_eq hlaid htree hother (Option.some.inj hposition)
    exact ⟨_, hname, fun _ ↦ ⟨_, _, hrefers, htype⟩⟩
  | pointer hother hkind | array hother hkind =>
    cases eq_of_offset_eq hlaid htree hother (Option.some.inj hposition)
    rw [hkind] at htag
    cases htag <;> contradiction
  | @qualified _ _ _ qualifier _ hother hkind =>
    cases eq_of_offset_eq hlaid htree hother (Option.some.inj hposition)
    rw [hkind] at htag
    cases qualifier <;> cases htag <;> contradiction
  | record hother hkind =>
    cases eq_of_offset_eq hlaid htree hother (Option.some.inj hposition)
    cases htag with
    | inl htag | inr htag =>
      rw [htag] at hkind
      cases hkind

/-- Where a described type refers to stands an entry. -/
theorem Denotes.exists_tree {type : TypeDescription} {position : Nat}
    (h : Denotes tops position? type) (hposition : position? = some position) :
    ∃ entry below, (entry, below) ∈ tops.trees ∧ entry.offset = position := by
  cases h with
  | void => cases hposition
  | base htree | pointer htree | array htree | qualified htree | definition htree | record htree =>
    exact ⟨_, _, htree, Option.some.inj hposition⟩

theorem recordNames_eq_empty {entries : List Entry}
    (h : ∀ entry ∈ entries, namedRecord? unit entry = .ok none) :
    recordNames unit entries = .ok ∅ := by
  induction entries with
  | nil => rfl
  | cons entry rest ih =>
    unfold recordNames at ih ⊢
    rw [List.foldlM_cons, h entry List.mem_cons_self]
    exact ih fun other hother ↦ h other (List.mem_cons_of_mem entry hother)

namespace CompilationUnit.Describes

/-- An entry that declares something stands right below the root. -/
theorem exists_tree (h : unit.Describes root tops records)
    (hentry : entry ∈ (Forest.cons root tops .nil).entries) (htag : entry.tag.declares = true) :
    ∃ below, (entry, below) ∈ tops.trees := by
  obtain ⟨tree, htree, hentry⟩ := Forest.mem_entries_iff.1 hentry
  cases List.mem_singleton.1 htree
  rcases hentry with rfl | hentry
  · rw [h.root_tag] at htag
    cases htag
  · obtain ⟨⟨top, below⟩, htree, rfl | hbelow⟩ := Forest.mem_entries_iff.1 hentry
    · exact ⟨below, htree⟩
    · rcases h.below_tag top below htree entry hbelow with hinner | hinner
      all_goals
        rw [hinner] at htag
        cases htag

/-- A record that stands right below the root has a name. -/
theorem value_name_eq (h : unit.Describes root tops records)
    (htree : (entry, below) ∈ tops.trees) (hrecord : entry.tag.isRecord = true) :
    ∃ name, entry.value .name = .ok (some (.text name)) := by
  rcases h.top entry below htree with ⟨record, _, hentry⟩ | ⟨hother, _⟩
  · exact ⟨record.name, Entry.value_name_eq hentry.name_eq⟩
  · rw [hrecord] at hother
    cases hother

/-- No type definition names a record without a name. -/
theorem namedRecord?_eq (h : unit.Describes root tops records)
    (hentry : entry ∈ (Forest.cons root tops .nil).entries) : namedRecord? unit entry = .ok none := by
  unfold namedRecord?
  by_cases htag : entry.tag = .typeDefinition
  · rw [if_neg (not_not_intro htag)]
    obtain ⟨start, stop, hlaid⟩ := h.laidOut.exists_below
    obtain ⟨below, htree⟩ := h.exists_tree hentry (by rw [htag]; rfl)
    rcases h.top entry below htree with ⟨record, _, hrecord⟩ | ⟨_, type, htype⟩
    · have hkind := hrecord.isRecord
      rw [htag] at hkind
      cases hkind
    · obtain ⟨name, hname, hrefers⟩ := htype.exists_name hlaid htree rfl (.inl htag)
      obtain ⟨target?, referred, hposition, htarget⟩ := hrefers htag
      unfold Entry.RefersTo at hposition
      rw [hposition, hname]
      cases target? with
      | none => rfl
      | some target =>
        obtain ⟨other, inner, hinner, rfl⟩ := htarget.exists_tree rfl
        simp only [Option.map_some, Except.ok_bind, (hlaid.entryAt_and_children hinner).1]
        cases hkind : other.tag.isRecord with
        | false => rfl
        | true =>
          obtain ⟨otherName, hvalue⟩ := h.value_name_eq hinner hkind
          rw [hvalue]
          rfl
  · rw [if_pos htag]
    rfl

theorem recordNames_eq (h : unit.Describes root tops records) :
    recordNames unit (Forest.cons root tops .nil).entries = .ok ∅ :=
  recordNames_eq_empty fun _ ↦ h.namedRecord?_eq

/-- A type definition or a base type has a name, and its position a type. -/
theorem resolves (h : named.unit.Describes root tops records)
    (hentry : entry ∈ (Forest.cons root tops .nil).entries)
    (htag : entry.tag = .typeDefinition ∨ entry.tag = .baseType) :
    ∃ name type, entry.name = .ok (some name) ∧ named.Resolves entry.offset type := by
  obtain ⟨start, stop, hlaid⟩ := h.laidOut.exists_below
  have hdeclares : entry.tag.declares = true := by
    cases htag with
    | inl htag | inr htag =>
      rw [htag]
      rfl
  obtain ⟨below, htree⟩ := h.exists_tree hentry hdeclares
  rcases h.top entry below htree with ⟨record, _, hof⟩ | ⟨_, type, htype⟩
  · have hkind := hof.isRecord
    cases htag with
    | inl htag | inr htag =>
      rw [htag] at hkind
      cases hkind
  · obtain ⟨name, hname, _⟩ := htype.exists_name hlaid htree rfl htag
    exact ⟨name, type.ctype, hname, htype.resolves hlaid rfl⟩

end CompilationUnit.Describes

/-! ## What an entry declares -/

/-- A complete record is added under its name, unless there is one. -/
theorem RecordEntry.yields_collectEntry {record : RecordDescription}
    (hlaid : named.unit.LaidOut tops start stop) (htree : (entry, below) ∈ tops.trees)
    (h : RecordEntry tops entry below record) (types : Registry) :
    named.Yields (named.collectEntry types entry)
      (if (types.record? record.name).isSome then types else types.addRecord record.layout) :=
  NamedUnit.yields_collectEntry_record h.isRecord h.declaration_eq
    (h.yields_recordLayout hlaid htree) types

/-- A name of a type leaves the records as they are. -/
theorem yields_defineName {type : CType} (htype : named.Resolves entry.offset type)
    (types : Registry) (name : String) :
    ∃ types', named.Yields (named.defineName types name entry) types' ∧
      types'.records = types.records :=
  ⟨_, NamedUnit.yields_defineName htype types name, by split <;> rfl⟩

/-- An entry that is no record leaves the records as they are. One that gives a name has to have a
type. -/
theorem yields_collectEntry_of_not_isRecord (hrecord : entry.tag.isRecord = false)
    (htype : entry.tag = .typeDefinition ∨ entry.tag = .baseType →
      ∃ name type, entry.name = .ok (some name) ∧ named.Resolves entry.offset type)
    (types : Registry) :
    ∃ types', named.Yields (named.collectEntry types entry) types' ∧
      types'.records = types.records := by
  unfold NamedUnit.collectEntry
  cases htag : entry.tag with
  | typeDefinition =>
    obtain ⟨name, type, hname, hresolves⟩ := htype (.inl htag)
    rw [hname]
    exact yields_defineName hresolves types name
  | baseType =>
    obtain ⟨name, type, hname, hresolves⟩ := htype (.inr htag)
    rw [hname]
    simp only [CachedResolving.liftM_ok, pure_bind]
    split
    · exact ⟨types, NamedUnit.Yields.pure types, rfl⟩
    · exact yields_defineName hresolves types name
  | structureType | unionType | classType =>
    rw [htag] at hrecord
    cases hrecord
  | _ => exact ⟨types, NamedUnit.Yields.pure types, rfl⟩

/-! ## All entries -/

/-- Each record that is there is one of the described ones. -/
def ListedOnly (records : List RecordDescription) (types : Registry) : Prop :=
  ∀ name layout, types.record? name = some layout →
    ∃ record ∈ records, record.name = name ∧ record.layout = layout

/-- If the entry is for one of the records, the record is there. -/
def HasRecordOf (records : List RecordDescription) (entry : Entry) (types : Registry) : Prop :=
  ∀ record ∈ records, entry.tag.isRecord = true → entry.name = .ok (some record.name) →
    types.record? record.name = some record.layout

/-- What comes of one entry or of several: nothing is lost, and only described records are added. -/
structure Collected (records : List RecordDescription) (entries : List Entry)
    (types collected : Registry) : Prop where
  listedOnly : ListedOnly records collected
  extends_types : collected.Extends types
  hasRecordOf : ∀ entry ∈ entries, HasRecordOf records entry collected

theorem Collected.append {first second : List Entry} {middle last : Registry}
    (h : Collected records first types middle) (h' : Collected records second middle last) :
    Collected records (first ++ second) types last where
  listedOnly := h'.listedOnly
  extends_types := h'.extends_types.trans h.extends_types
  hasRecordOf := by
    intro entry hentry
    rcases List.mem_append.1 hentry with hfirst | hsecond
    · intro record hrecord hkind hname
      exact h'.extends_types _ _ (h.hasRecordOf entry hfirst record hrecord hkind hname)
    · exact h'.hasRecordOf entry hsecond

theorem Collected.of_records_eq {collected : Registry} (hkind : entry.tag.isRecord = false)
    (hrecords : collected.records = types.records) (htypes : ListedOnly records types) :
    Collected records [entry] types collected := by
  have hrecord? : ∀ name, collected.record? name = types.record? name :=
    fun name ↦ congrArg (·[name]?) hrecords
  refine ⟨?_, ?_, ?_⟩
  · intro name layout hlayout
    exact htypes name layout ((hrecord? name).symm.trans hlayout)
  · intro name layout hlayout
    exact (hrecord? name).trans hlayout
  · intro found hfound record _ hfoundKind
    cases List.mem_singleton.1 hfound
    exact absurd (hfoundKind.symm.trans hkind) (by decide)

section Names

variable (hnames : (records.map (·.name)).Nodup)
include hnames

/-- The record of a name is the one that is added, or there already. -/
theorem RecordEntry.collected {record : RecordDescription} (hrecord : record ∈ records)
    (h : RecordEntry tops entry below record) (htypes : ListedOnly records types) :
    Collected records [entry] types
      (if (types.record? record.name).isSome then types else types.addRecord record.layout) := by
  have hunique : ∀ other ∈ records, other.name = record.name → other = record :=
    fun other hother hname ↦ List.inj_on_of_nodup_map hnames hother hrecord hname
  have hof : ∀ collected : Registry, collected.record? record.name = some record.layout →
      ∀ found ∈ [entry], HasRecordOf records found collected := by
    intro collected hcollected found hfound other hother _ hname
    cases List.mem_singleton.1 hfound
    rw [h.name_eq] at hname
    cases hunique other hother (Option.some.inj (Except.ok.inj hname)).symm
    exact hcollected
  cases hfound : types.record? record.name with
  | some layout =>
    -- The name is taken, but by this record: no other one has the name.
    obtain ⟨other, hother, hname, rfl⟩ := htypes _ _ hfound
    cases hunique other hother hname
    exact ⟨htypes, fun _ _ ↦ id, hof types hfound⟩
  | none =>
    have hadded : (types.addRecord record.layout).record? record.name = some record.layout :=
      Registry.record?_addRecord.trans (if_pos rfl)
    refine ⟨?_, ?_, hof _ hadded⟩
    · intro name layout hlayout
      rw [if_neg (by simp), Registry.record?_addRecord] at hlayout
      split at hlayout
      · next hname =>
        cases hlayout
        exact ⟨record, hrecord, hname, rfl⟩
      · exact htypes name layout hlayout
    · intro name layout hlayout
      rw [if_neg (by simp), Registry.record?_addRecord, if_neg]
      · exact hlayout
      · rintro rfl
        cases hfound.symm.trans hlayout

/-- An entry of the unit adds the record that it describes, and no other one. -/
theorem yields_collectEntry (hdescribes : named.unit.Describes root tops records)
    (hentry : entry ∈ (Forest.cons root tops .nil).entries) (htypes : ListedOnly records types) :
    ∃ collected, named.Yields (named.collectEntry types entry) collected ∧
      Collected records [entry] types collected := by
  obtain ⟨start, stop, hlaid⟩ := hdescribes.laidOut.exists_below
  by_cases hkind : entry.tag.isRecord = true
  · obtain ⟨below, htree⟩ := hdescribes.exists_tree hentry (Tag.declares_of_isRecord hkind)
    rcases hdescribes.top entry below htree with ⟨record, hrecord, hof⟩ | ⟨hother, _⟩
    · exact ⟨_, hof.yields_collectEntry hlaid htree types, hof.collected hnames hrecord htypes⟩
    · exact absurd (hkind.symm.trans hother) (by decide)
  · have hother := Bool.eq_false_iff.2 hkind
    obtain ⟨collected, hyields, hrecords⟩ :=
      yields_collectEntry_of_not_isRecord hother (hdescribes.resolves hentry) types
    exact ⟨collected, hyields, .of_records_eq hother hrecords htypes⟩

/-- The entries of the unit, in the order in which they stand, add the records that they describe
and no others. -/
theorem yields_foldlM_collectEntry (hdescribes : named.unit.Describes root tops records)
    (entries : List Entry)
    (hentries : ∀ entry ∈ entries, entry ∈ (Forest.cons root tops .nil).entries)
    (htypes : ListedOnly records types) :
    ∃ collected, named.Yields (entries.foldlM named.collectEntry types) collected ∧
      Collected records entries types collected := by
  induction entries generalizing types with
  | nil => exact ⟨types, NamedUnit.Yields.pure types, htypes, fun _ _ ↦ id, by simp⟩
  | cons entry rest ih =>
    obtain ⟨middle, hmiddle, hfirst⟩ :=
      yields_collectEntry hnames hdescribes (hentries entry List.mem_cons_self) htypes
    obtain ⟨last, hlast, hrest⟩ :=
      ih (fun other hother ↦ hentries other (List.mem_cons_of_mem entry hother)) hfirst.listedOnly
    refine ⟨last, ?_, hfirst.append hrest⟩
    rw [List.foldlM_cons]
    exact hmiddle.bind hlast

end Names

/-- The registry of a unit that describes records with distinct names has a record of each of the
names, with the described size and members, and no other record. -/
theorem registryOf_describes {records : List RecordDescription}
    (hdescribes : unit.Describes root tops records) (hnames : (records.map (·.name)).Nodup) :
    ∃ types, registryOf [unit] = pure types ∧ ∀ name layout, types.record? name = some layout ↔
      ∃ record ∈ records, record.name = name ∧ record.layout = layout := by
  let named : NamedUnit := ⟨unit, 0, ∅⟩
  have hnamed : named.unit.Describes root tops records := hdescribes
  have hempty : ListedOnly records .empty := by
    intro name layout h
    cases h
  obtain ⟨types, hyields, hcollected⟩ := yields_foldlM_collectEntry hnames hnamed
    (Forest.cons root tops .nil).entries (fun _ ↦ id) hempty
  refine ⟨types, registryOf_of_yields hdescribes.laidOut.entries_eq hdescribes.recordNames_eq hyields,
    ?_⟩
  intro name layout
  constructor
  · exact hcollected.listedOnly name layout
  · rintro ⟨record, hrecord, rfl, rfl⟩
    obtain ⟨entry, below, htree, hentry⟩ := hdescribes.listed record hrecord
    have htops : entry ∈ tops.entries := Forest.mem_entries_iff.2 ⟨_, htree, .inl rfl⟩
    have hmem : entry ∈ (Forest.cons root tops .nil).entries :=
      Forest.mem_entries_iff.2 ⟨(root, tops), List.mem_cons_self, .inr htops⟩
    exact hcollected.hasRecordOf entry hmem record hrecord hentry.isRecord hentry.name_eq

end Described

namespace Ring

/-! ## Two records that point to each other -/

open Short

def node : Entry := entry 1 .structureType true [(.name, .text "node"), (.byteSize, .number 80)]

def rows : Entry := entry 8 .arrayType true [(.type, .reference 22)]

def ownerName : Entry :=
  entry 12 .typeDefinition false [(.name, .text "owner_t"), (.type, .reference 14)]

def untyped : Entry := entry 13 .pointerType false [(.byteSize, .number 8)]

def owner : Entry :=
  entry 14 .structureType true
    [(.name, .text "owner"), (.byteSize, .number 16), (.sibling, .reference 18)]

def constant : Entry := entry 20 .constType false [(.type, .reference 21)]

def char : Entry :=
  entry 21 .baseType false [(.name, .text "char"), (.byteSize, .number 1), (.encoding, .number 6)]

def long : Entry :=
  entry 22 .baseType false
    [(.name, .text "long unsigned int"), (.byteSize, .number 8), (.encoding, .number 7)]

def nodeMembers : Forest :=
  .cons (member 2 "owner" 0 7) .nil <| .cons (member 3 "rows" 8 8) .nil <|
    .cons (member 4 "inner" 56 12) .nil <| .cons (member 5 "data" 72 13) .nil .nil

def dimensions : Forest :=
  .cons (entry 9 .subrangeType false [(.count, .number 2)]) .nil <|
    .cons (entry 10 .subrangeType false [(.upperBound, .number 2)]) .nil .nil

def ownerMembers : Forest :=
  .cons (member 15 "first" 0 18) .nil <| .cons (member 16 "label" 8 19) .nil .nil

def tops : Forest :=
  .cons node nodeMembers <| .cons (pointer 7 14) .nil <| .cons rows dimensions <|
    .cons ownerName .nil <| .cons untyped .nil <| .cons owner ownerMembers <|
      .cons (pointer 18 1) .nil <| .cons (pointer 19 20) .nil <| .cons constant .nil <|
        .cons char .nil <| .cons long .nil .nil

def unit : CompilationUnit := (Forest.cons root tops .nil).unit 24

def ownerRecord : RecordDescription where
  name := "owner"
  size := 16
  members := [⟨"first", 0, .pointer (.record "node")⟩,
    ⟨"label", 8, .pointer (.qualified .constant (.base .char "char"))⟩]

def nodeRecord : RecordDescription where
  name := "node"
  size := 80
  members := [⟨"owner", 0, .pointer (.record "owner")⟩,
    ⟨"rows", 8, .array (.base .uint64 "long unsigned int") [2, 3]⟩,
    ⟨"inner", 56, .definition "owner_t" (.record "owner")⟩,
    ⟨"data", 72, .pointer .void⟩]

theorem laidOut : unit.LaidOut (.cons root tops .nil) unit.start unit.stop :=
  Forest.laidOut_unit (by decide) rfl

theorem long_denotes : Denotes tops (some long.offset) (.base .uint64 "long unsigned int") :=
  .base (List.mem_of_getElem? (i := 10) rfl) rfl rfl (by decide) rfl rfl (by decide)

theorem owner_denotes : Denotes tops (some owner.offset) (.record "owner") :=
  .record (List.mem_of_getElem? (i := 5) rfl) rfl rfl

theorem ownerPointer_denotes :
    Denotes tops (some (pointer 7 14).offset) (.pointer (.record "owner")) :=
  .pointer (List.mem_of_getElem? (i := 1) rfl) rfl (by rfl) owner_denotes

theorem rows_denotes :
    Denotes tops (some rows.offset) (.array (.base .uint64 "long unsigned int") [2, 3]) :=
  .array (List.mem_of_getElem? (i := 2) rfl) rfl (by rfl) long_denotes
    (.cons (.counted rfl rfl) (.cons (.bounded rfl rfl (by decide) rfl) .nil))

theorem ownerName_denotes :
    Denotes tops (some ownerName.offset) (.definition "owner_t" (.record "owner")) :=
  .definition (List.mem_of_getElem? (i := 3) rfl) rfl rfl (by rfl) owner_denotes

theorem untyped_denotes : Denotes tops (some untyped.offset) (.pointer .void) :=
  .pointer (List.mem_of_getElem? (i := 4) rfl) rfl (by rfl) .void

theorem nodePointer_denotes :
    Denotes tops (some (pointer 18 1).offset) (.pointer (.record "node")) :=
  have node : Denotes tops (some node.offset) (.record "node") :=
    .record (List.mem_of_getElem? (i := 0) rfl) rfl rfl
  .pointer (List.mem_of_getElem? (i := 6) rfl) rfl (by rfl) node

theorem char_denotes : Denotes tops (some char.offset) (.base .char "char") :=
  .base (List.mem_of_getElem? (i := 9) rfl) rfl rfl (by decide) rfl rfl (by decide)

theorem constant_denotes :
    Denotes tops (some constant.offset) (.qualified .constant (.base .char "char")) :=
  .qualified (List.mem_of_getElem? (i := 8) rfl) rfl (by rfl) char_denotes

theorem label_denotes :
    Denotes tops (some (pointer 19 20).offset) (.pointer (.qualified .constant (.base .char "char"))) :=
  .pointer (List.mem_of_getElem? (i := 7) rfl) rfl (by rfl) constant_denotes

theorem node_describes : RecordEntry tops node nodeMembers nodeRecord where
  isRecord := rfl
  declaration_eq := rfl
  name_eq := rfl
  size_eq := rfl
  members :=
    .cons ⟨rfl, rfl, rfl, .number rfl, _, by rfl, ownerPointer_denotes⟩ <|
    .cons ⟨rfl, rfl, rfl, .number rfl, _, by rfl, rows_denotes⟩ <|
    .cons ⟨rfl, rfl, rfl, .number rfl, _, by rfl, ownerName_denotes⟩ <|
    .cons ⟨rfl, rfl, rfl, .number rfl, _, by rfl, untyped_denotes⟩ .nil

theorem owner_describes : RecordEntry tops owner ownerMembers ownerRecord where
  isRecord := rfl
  declaration_eq := rfl
  name_eq := rfl
  size_eq := rfl
  members :=
    .cons ⟨rfl, rfl, rfl, .number rfl, _, by rfl, nodePointer_denotes⟩ <|
    .cons ⟨rfl, rfl, rfl, .number rfl, _, by rfl, label_denotes⟩ .nil

theorem describes : unit.Describes root tops [ownerRecord, nodeRecord] where
  laidOut := laidOut
  root_tag := rfl
  top := by
    have hall : ∀ tree ∈ tops.trees,
        (∃ record ∈ [ownerRecord, nodeRecord], RecordEntry tops tree.1 tree.2 record) ∨
          tree.1.tag.isRecord = false ∧ ∃ type, Denotes tops (some tree.1.offset) type := by
      simp only [tops, Forest.trees, List.forall_mem_cons]
      exact ⟨.inl ⟨_, by simp, node_describes⟩, .inr ⟨rfl, _, ownerPointer_denotes⟩,
        .inr ⟨rfl, _, rows_denotes⟩, .inr ⟨rfl, _, ownerName_denotes⟩,
        .inr ⟨rfl, _, untyped_denotes⟩, .inl ⟨_, by simp, owner_describes⟩,
        .inr ⟨rfl, _, nodePointer_denotes⟩, .inr ⟨rfl, _, label_denotes⟩,
        .inr ⟨rfl, _, constant_denotes⟩, .inr ⟨rfl, _, char_denotes⟩,
        .inr ⟨rfl, _, long_denotes⟩, List.forall_mem_nil _⟩
    exact fun entry below htree ↦ hall (entry, below) htree
  below_tag := by
    have hall : ∀ tree ∈ tops.trees, ∀ inner ∈ tree.2.entries,
        inner.tag = .member ∨ inner.tag = .subrangeType := by decide
    exact fun entry below htree ↦ hall (entry, below) htree
  listed := by
    simp only [List.forall_mem_cons]
    exact ⟨⟨_, _, List.mem_of_getElem? (i := 5) rfl, owner_describes⟩,
      ⟨_, _, List.mem_of_getElem? (i := 0) rfl, node_describes⟩, List.forall_mem_nil _⟩

end Ring

theorem registryOf_describes_ring :
    Ring.unit.Describes Short.root Ring.tops [Ring.ownerRecord, Ring.nodeRecord] ∧
      ([Ring.ownerRecord, Ring.nodeRecord].map (·.name)).Nodup ∧
      ∃ types, registryOf [Ring.unit] = pure types ∧
        types.record? "owner" = some ⟨"owner", 16,
          [⟨"first", 0, .pointer (.record "node")⟩, ⟨"label", 8, .pointer (.scalar .char)⟩]⟩ ∧
        types.record? "node" = some ⟨"node", 80,
          [⟨"owner", 0, .pointer (.record "owner")⟩,
            ⟨"rows", 8, .array (.array (.scalar .uint64) 3) 2⟩,
            ⟨"inner", 56, .record "owner"⟩, ⟨"data", 72, .pointer .void⟩]⟩ ∧
        types.record? "owner_t" = none := by
  have hnames : ([Ring.ownerRecord, Ring.nodeRecord].map (·.name)).Nodup := by decide
  obtain ⟨types, hrun, hrecords⟩ := registryOf_describes Ring.describes hnames
  refine ⟨Ring.describes, hnames, types, hrun, ?_, ?_, ?_⟩
  · exact (hrecords _ _).2 ⟨Ring.ownerRecord, by simp, rfl, rfl⟩
  · exact (hrecords _ _).2 ⟨Ring.nodeRecord, by simp, rfl, rfl⟩
  · apply Option.eq_none_iff_forall_ne_some.2
    intro layout hlayout
    obtain ⟨record, hrecord, hname, _⟩ := (hrecords _ _).1 hlayout
    have hother : ∀ record ∈ [Ring.ownerRecord, Ring.nodeRecord], record.name ≠ "owner_t" := by decide
    exact hother record hrecord hname

end DebugInfo

end MemoryInspector
