import Mathlib.Data.List.Nodup
import MemoryInspector.DebugInfo.Entry
import MemoryInspector.Proofs.Outcome

/-!
# Forests of entries

The entries of a unit form a forest that is laid out in preorder: an entry is followed by the
entries below it, which a null entry ends. Reading all entries of a unit goes through the forest in
this order, and reading the children of an entry finds the entries right below it, on the way over
the deeper ones or past them by the sibling that an entry names.
-/

namespace MemoryInspector.DebugInfo

namespace Walk

variable {α : Type}

@[simp]
theorem behind_nil (walk : Walk α) : walk.behind [] = walk := rfl

@[simp]
theorem behind_behind (front middle : List α) (walk : Walk α) :
    (walk.behind middle).behind front = walk.behind (front ++ middle) := by
  simp only [behind, List.append_assoc]

theorem behind_complete (front found : List α) :
    (complete found).behind front = complete (front ++ found) := rfl

end Walk

/-- Entries one after another, each with the entries below it. -/
inductive Forest where
  | nil
  | cons (entry : Entry) (children rest : Forest)

namespace Forest

/-- All entries, each before those below it. -/
def entries : Forest → List Entry
  | nil => []
  | cons entry children rest => entry :: (children.entries ++ rest.entries)

/-- The entries that are below no other one, each with what is below it. -/
def trees : Forest → List (Entry × Forest)
  | nil => []
  | cons entry children rest => (entry, children) :: rest.trees

def roots (forest : Forest) : List Entry := forest.trees.map Prod.fst

/-- All entries in order, each with what is below it. -/
def subtrees : Forest → List (Entry × Forest)
  | nil => []
  | cons entry children rest => (entry, children) :: (children.subtrees ++ rest.subtrees)

@[simp]
theorem roots_nil : nil.roots = [] := rfl

theorem map_fst_subtrees (forest : Forest) : forest.subtrees.map Prod.fst = forest.entries := by
  induction forest with
  | nil => rfl
  | cons entry children rest ihChildren ihRest =>
    simp only [subtrees, entries, List.map_cons, List.map_append, ihChildren, ihRest]

theorem trees_subset_subtrees (forest : Forest) : forest.trees ⊆ forest.subtrees := by
  induction forest with
  | nil => exact List.Subset.refl _
  | cons entry children rest _ ih =>
    intro tree htree
    rcases List.mem_cons.1 htree with rfl | htree
    · exact List.mem_cons_self
    · exact List.mem_cons_of_mem _ (List.mem_append_right _ (ih htree))

/-- What is below one of the entries is a part of the forest. -/
theorem subtrees_subset_of_mem {forest below : Forest} {entry : Entry}
    (h : (entry, below) ∈ forest.subtrees) : below.subtrees ⊆ forest.subtrees := by
  induction forest with
  | nil => cases h
  | cons found children rest ihChildren ihRest =>
    have hinside : below.subtrees ⊆ children.subtrees ++ rest.subtrees := by
      rcases List.mem_cons.1 h with heq | h
      · cases heq
        exact List.subset_append_left _ _
      · rcases List.mem_append.1 h with hchildren | hrest
        · exact List.Subset.trans (ihChildren hchildren) (List.subset_append_left _ _)
        · exact List.Subset.trans (ihRest hrest) (List.subset_append_right _ _)
    exact List.Subset.trans hinside (List.subset_cons_self _ _)

/-- Every entry is a root or below one. -/
theorem mem_entries_iff {forest : Forest} {found : Entry} :
    found ∈ forest.entries ↔
      ∃ tree ∈ forest.trees, found = tree.1 ∨ found ∈ tree.2.entries := by
  induction forest with
  | nil => simp [entries, trees]
  | cons entry children rest _ ih =>
    simp only [entries, trees, List.mem_cons, List.mem_append, ih, exists_eq_or_imp, or_assoc]

theorem mem_entries_of_mem_subtrees {forest : Forest} {tree : Entry × Forest}
    (h : tree ∈ forest.subtrees) : tree.1 ∈ forest.entries := by
  rw [← forest.map_fst_subtrees]
  exact List.mem_map_of_mem h

theorem exists_mem_subtrees {forest : Forest} {entry : Entry} (h : entry ∈ forest.entries) :
    ∃ below, (entry, below) ∈ forest.subtrees := by
  rw [← forest.map_fst_subtrees] at h
  obtain ⟨⟨found, below⟩, htree, rfl⟩ := List.mem_map.1 h
  exact ⟨below, htree⟩

/-- What stands right below an entry is an entry, too. -/
theorem mem_entries_of_mem_roots {forest below : Forest} {entry root : Entry}
    (h : (entry, below) ∈ forest.subtrees) (hroot : root ∈ below.roots) : root ∈ forest.entries := by
  obtain ⟨tree, htree, rfl⟩ := List.mem_map.1 hroot
  exact mem_entries_of_mem_subtrees (subtrees_subset_of_mem h (below.trees_subset_subtrees htree))

end Forest

namespace CompilationUnit

variable {unit : CompilationUnit} {entry : Entry} {forest children rest : Forest}
  {start next stop null behind position level : Nat}

/-- The entry stands at its position and ends before the next one. -/
structure HasEntry (unit : CompilationUnit) (entry : Entry) (next : Nat) : Prop where
  entryAt_eq : unit.entryAt entry.offset = .ok entry
  next?_eq : entry.next? = some next
  offset_lt : entry.offset < next

/-- A null entry stands at the position, and ends before the next one. -/
structure HasNull (unit : CompilationUnit) (null behind : Nat) : Prop where
  itemAt_eq : unit.itemAt null = .ok (.null behind)
  lt_behind : null < behind

/-- The forest stands between the two positions. Where an entry names a usable sibling, that is
the position behind the entries below it. -/
inductive LaidOut (unit : CompilationUnit) : Forest → Nat → Nat → Prop
  | nil (position : Nat) : LaidOut unit .nil position position
  | leaf {entry : Entry} {rest : Forest} {next stop : Nat} (hentry : unit.HasEntry entry next)
      (hleaf : entry.hasChildren = false) (hrest : LaidOut unit rest next stop) :
      LaidOut unit (.cons entry .nil rest) entry.offset stop
  | branch {entry : Entry} {children rest : Forest} {next null behind stop : Nat}
      (hentry : unit.HasEntry entry next) (hbranch : entry.hasChildren = true)
      (hchildren : LaidOut unit children next null) (hnull : unit.HasNull null behind)
      (hsibling : ∀ sibling, unit.siblingPosition? entry = some sibling → sibling = behind)
      (hrest : LaidOut unit rest behind stop) :
      LaidOut unit (.cons entry children rest) entry.offset stop

/-! ## Single items -/

theorem HasEntry.itemAt_eq (h : unit.HasEntry entry next) :
    unit.itemAt entry.offset = .ok (.entry entry) := by
  have hat := h.entryAt_eq
  unfold entryAt at hat
  cases hitem : unit.itemAt entry.offset with
  | error e =>
    rw [hitem] at hat
    cases hat
  | ok item =>
    rw [hitem] at hat
    cases item with
    | null => cases hat
    | entry found =>
      cases hat
      rfl

theorem lt_stop_of_itemAt {item : Item} (h : unit.itemAt position = .ok item) :
    position < unit.stop := by
  unfold itemAt at h
  split at h
  · next hbetween => exact hbetween.2
  · cases h

theorem HasEntry.offset_lt_stop (h : unit.HasEntry entry next) : entry.offset < unit.stop :=
  lt_stop_of_itemAt h.itemAt_eq

theorem behind_eq (item : Item) (hnext : item.next? = some next) (hlt : position < next) :
    item.behind position = .ok ⟨next, hlt⟩ := by
  unfold Item.behind
  rw [hnext]
  exact dif_pos hlt

/-! ## All entries -/

theorem entriesFrom_entry (h : unit.HasEntry entry next) :
    unit.entriesFrom entry.offset = (unit.entriesFrom next).map (entry :: ·) := by
  rw [entriesFrom, dif_pos h.offset_lt_stop, h.itemAt_eq]
  dsimp only
  rw [behind_eq (.entry entry) h.next?_eq h.offset_lt]
  rfl

theorem entriesFrom_null (h : unit.HasNull null behind) :
    unit.entriesFrom null = unit.entriesFrom behind := by
  rw [entriesFrom, dif_pos (lt_stop_of_itemAt h.itemAt_eq), h.itemAt_eq]
  dsimp only
  rw [behind_eq (.null behind) rfl h.lt_behind]
  exact congrFun Except.map_id _

/-- All entries from the start of a forest on are those of the forest, then those behind it. -/
theorem LaidOut.entriesFrom_eq (h : unit.LaidOut forest start stop) :
    unit.entriesFrom start = (unit.entriesFrom stop).map (forest.entries ++ ·) := by
  induction h with
  | nil position => exact (congrFun Except.map_id _).symm
  | leaf hentry hleaf hrest ih =>
    rw [entriesFrom_entry hentry, ih, Except.map_comp]
    rfl
  | @branch entry children rest next null behind stop hentry hbranch hchildren hnull hsibling hrest
      ihChildren ihRest =>
    calc unit.entriesFrom entry.offset
        = ((unit.entriesFrom null).map (children.entries ++ ·)).map (entry :: ·) := by
          rw [entriesFrom_entry hentry, ihChildren]
      _ = (((unit.entriesFrom stop).map (rest.entries ++ ·)).map (children.entries ++ ·)).map
            (entry :: ·) := by
          rw [entriesFrom_null hnull, ihRest]
      _ = (unit.entriesFrom stop).map ((Forest.cons entry children rest).entries ++ ·) := by
          rw [Except.map_comp, Except.map_comp]
          congr 1
          funext behind
          simp [Forest.entries]

/-- Where a forest fills a unit, its entries are those of the unit. -/
theorem LaidOut.entries_eq (h : unit.LaidOut forest unit.start unit.stop) :
    unit.entries = .ok forest.entries := by
  have hstop : unit.entriesFrom unit.stop = .ok [] := by
    rw [entriesFrom, dif_neg (Nat.lt_irrefl _)]
  rw [entries, h.entriesFrom_eq, hstop]
  exact congrArg Except.ok (List.append_nil _)

/-! ## Children -/

/-- The siblings from an entry on go on where the step over it leads. -/
theorem siblingsFrom_entry (h : unit.HasEntry entry next) {hlt : entry.offset < behind}
    {deeper : Nat} (hstep : unit.stepOver entry.offset (.entry entry) = .ok (⟨behind, hlt⟩, deeper)) :
    unit.siblingsFrom entry.offset level =
      (unit.siblingsFrom behind (level + deeper)).behind (if level = 0 then [entry] else []) := by
  rw [siblingsFrom, dif_pos h.offset_lt_stop, h.itemAt_eq]
  dsimp only
  rw [if_neg (by simp [Item.entry?]), hstep]
  rfl

theorem siblingsFrom_null (h : unit.HasNull null behind) :
    unit.siblingsFrom null (level + 1) = unit.siblingsFrom behind level := by
  rw [siblingsFrom, dif_pos (lt_stop_of_itemAt h.itemAt_eq), h.itemAt_eq]
  have hstep : unit.stepOver null (.null behind) = .ok (⟨behind, h.lt_behind⟩, 0) := by
    unfold stepOver
    simp [Item.entry?, behind_eq (.null behind) rfl h.lt_behind, Except.map]
  dsimp only
  rw [if_neg (by simp), hstep]
  rfl

/-- A null entry ends the siblings. -/
theorem siblingsFrom_null_zero (h : unit.HasNull null behind) :
    unit.siblingsFrom null 0 = .complete [] := by
  rw [siblingsFrom, dif_pos (lt_stop_of_itemAt h.itemAt_eq), h.itemAt_eq]
  rfl

/-- Behind an entry without children stands the next one. -/
theorem stepOver_leaf (h : unit.HasEntry entry next) (hleaf : entry.hasChildren = false) :
    unit.stepOver entry.offset (.entry entry) = .ok (⟨next, h.offset_lt⟩, 0) := by
  unfold stepOver
  simp [Item.entry?, hleaf, behind_eq (.entry entry) h.next?_eq h.offset_lt, Except.map]

/-- Without a sibling, the step over an entry with children goes into them. -/
theorem stepOver_into (h : unit.HasEntry entry next) (hbranch : entry.hasChildren = true)
    (hsibling : unit.siblingPosition? entry = none) :
    unit.stepOver entry.offset (.entry entry) = .ok (⟨next, h.offset_lt⟩, 1) := by
  unfold stepOver
  simp [Item.entry?, hbranch, hsibling, behind_eq (.entry entry) h.next?_eq h.offset_lt,
    Except.map]

theorem stepOver_past (hbranch : entry.hasChildren = true)
    (hsibling : unit.siblingPosition? entry = some behind) (hlt : entry.offset < behind) :
    unit.stepOver entry.offset (.entry entry) = .ok (⟨behind, hlt⟩, 0) := by
  unfold stepOver
  simp [Item.entry?, hbranch, hsibling, hlt]

theorem lt_of_siblingPosition? (h : unit.siblingPosition? entry = some position) :
    entry.offset < position := by
  unfold siblingPosition? at h
  split at h
  · split at h
    · next hplace =>
      cases h
      exact hplace.1
    · cases h
  · cases h

/-- The siblings from the start of a forest on are its roots, then those behind it; below the level
of the siblings, only those behind it. -/
theorem LaidOut.siblingsFrom_eq (h : unit.LaidOut forest start stop) (level : Nat) :
    unit.siblingsFrom start level =
      (unit.siblingsFrom stop level).behind (if level = 0 then forest.roots else []) := by
  induction h generalizing level with
  | nil position => rw [Forest.roots_nil, ite_self, Walk.behind_nil]
  | leaf hentry hleaf hrest ih =>
    rw [siblingsFrom_entry hentry (stepOver_leaf hentry hleaf), Nat.add_zero, ih,
      Walk.behind_behind]
    congr 1
    split <;> rfl
  | @branch entry children rest next null behind stop hentry hbranch hchildren hnull hsibling hrest
      ihChildren ihRest =>
    -- The entries below are passed over, at once by the sibling or one level deeper up to the null.
    have hover : unit.siblingsFrom entry.offset level =
        (unit.siblingsFrom behind level).behind (if level = 0 then [entry] else []) := by
      cases hposition : unit.siblingPosition? entry with
      | none =>
        have hbelow := ihChildren (level + 1)
        rw [if_neg (Nat.succ_ne_zero level), siblingsFrom_null hnull] at hbelow
        rw [siblingsFrom_entry hentry (stepOver_into hentry hbranch hposition), hbelow,
          Walk.behind_nil]
      | some sibling =>
        obtain rfl := hsibling sibling hposition
        exact siblingsFrom_entry hentry
          (stepOver_past hbranch hposition (lt_of_siblingPosition? hposition))
    rw [hover, ihRest, Walk.behind_behind]
    congr 1
    split <;> rfl

/-! ## The entries of a forest -/

/-- Each entry of a forest that is laid out stands at its position, and its children are the
entries right below it. -/
theorem LaidOut.hasEntry_and_children (h : unit.LaidOut forest start stop)
    (hmem : (entry, children) ∈ forest.subtrees) :
    (∃ next, unit.HasEntry entry next) ∧ unit.children entry = .complete children.roots := by
  induction h with
  | nil => cases hmem
  | leaf hentry hleaf hrest ih =>
    rcases List.mem_cons.1 hmem with hhead | hmem
    · cases hhead
      refine ⟨⟨_, hentry⟩, ?_⟩
      rw [CompilationUnit.children, hleaf]
      rfl
    · exact ih hmem
  | @branch found below rest next null behind stop hentry hbranch hchildren hnull hsibling hrest
      ihChildren ihRest =>
    rcases List.mem_cons.1 hmem with hhead | hmem
    · cases hhead
      refine ⟨⟨_, hentry⟩, ?_⟩
      rw [CompilationUnit.children, if_pos hbranch, hentry.next?_eq]
      dsimp only
      rw [hchildren.siblingsFrom_eq, siblingsFrom_null_zero hnull, Walk.behind_complete, if_pos rfl,
        List.append_nil]
    · exact (List.mem_append.1 hmem).elim ihChildren ihRest

theorem LaidOut.entryAt_and_children (h : unit.LaidOut forest start stop)
    (hmem : (entry, children) ∈ forest.trees) :
    unit.entryAt entry.offset = .ok entry ∧ unit.children entry = .complete children.roots := by
  obtain ⟨⟨_, hentry⟩, hchildren⟩ := h.hasEntry_and_children (forest.trees_subset_subtrees hmem)
  exact ⟨hentry.entryAt_eq, hchildren⟩

theorem LaidOut.start_le_stop (h : unit.LaidOut forest start stop) : start ≤ stop := by
  induction h with
  | nil => exact Nat.le_refl _
  | leaf hentry _ _ ih => exact Nat.le_trans (Nat.le_of_lt hentry.offset_lt) ih
  | branch hentry _ _ hnull _ _ ihChildren ihRest =>
    have hlt := hentry.offset_lt
    have hnext := hnull.lt_behind
    omega

/-- The entries of a forest stand between its ends. -/
theorem LaidOut.between (h : unit.LaidOut forest start stop) {tree : Entry × Forest}
    (hmem : tree ∈ forest.subtrees) : start ≤ tree.1.offset ∧ tree.1.offset < stop := by
  induction h with
  | nil => cases hmem
  | leaf hentry _ hrest ih =>
    have hlt := hentry.offset_lt
    have hbehind := hrest.start_le_stop
    rcases List.mem_cons.1 hmem with rfl | hmem
    · exact ⟨Nat.le_refl _, Nat.lt_of_lt_of_le hlt hbehind⟩
    · exact ⟨Nat.le_trans (Nat.le_of_lt hlt) (ih hmem).1, (ih hmem).2⟩
  | branch hentry _ hchildren hnull _ hrest ihChildren ihRest =>
    have hlt := hentry.offset_lt
    have hbelow := hchildren.start_le_stop
    have hnext := hnull.lt_behind
    have hbehind := hrest.start_le_stop
    rcases List.mem_cons.1 hmem with rfl | hmem
    · dsimp only
      omega
    · rcases List.mem_append.1 hmem with hmem | hmem
      · have hplace := ihChildren hmem
        omega
      · have hplace := ihRest hmem
        omega

/-- The entries of a forest stand in the order in which they are listed. -/
theorem LaidOut.pairwise_offset (h : unit.LaidOut forest start stop) :
    forest.subtrees.Pairwise fun first second ↦ first.1.offset < second.1.offset := by
  induction h with
  | nil => exact .nil
  | leaf hentry _ hrest ih =>
    refine List.pairwise_cons.2 ⟨fun tree htree ↦ ?_, ih⟩
    exact Nat.lt_of_lt_of_le hentry.offset_lt (hrest.between htree).1
  | branch hentry _ hchildren hnull _ hrest ihChildren ihRest =>
    have hlt := hentry.offset_lt
    have hnext := hnull.lt_behind
    have hbelow := hchildren.start_le_stop
    refine List.pairwise_cons.2 ⟨fun tree htree ↦ ?_, List.pairwise_append.2 ⟨ihChildren, ihRest, ?_⟩⟩
    · dsimp only
      rcases List.mem_append.1 htree with htree | htree
      · have hplace := (hchildren.between htree).1
        omega
      · have hplace := (hrest.between htree).1
        omega
    · intro first hfirst second hsecond
      have hplace := (hchildren.between hfirst).2
      have hplace' := (hrest.between hsecond).1
      omega

/-- At a position of a forest stands one entry. -/
theorem LaidOut.eq_of_offset_eq (h : unit.LaidOut forest start stop) {tree other : Entry × Forest}
    (htree : tree ∈ forest.subtrees) (hother : other ∈ forest.subtrees)
    (hoffset : tree.1.offset = other.1.offset) : tree = other := by
  have hnodup : (forest.subtrees.map (·.1.offset)).Nodup :=
    List.pairwise_map.2 (h.pairwise_offset.imp fun hlt ↦ Nat.ne_of_lt hlt)
  exact List.inj_on_of_nodup_map hnodup htree hother hoffset

end CompilationUnit

end MemoryInspector.DebugInfo
