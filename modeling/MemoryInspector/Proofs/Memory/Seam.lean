import Mathlib.Data.List.Basic
import Mathlib.Data.List.Pairwise
import MemoryInspector.Proofs.Memory.CoreDump
import MemoryInspector.Proofs.Memory.Image

/-!
# Seams of memory images

Whether a range can be read depends on how the image is cut into pieces, since a read has to lie
inside one of them. The pieces of a core dump are its segments, also where one ends at the next one.
In a snapshot a mapped range becomes part of the piece that ends where it begins, but not of the one
that begins where it ends: between two adjacent ranges is a seam if the upper one was mapped first.
-/

namespace MemoryInspector

namespace AddressRange

variable {range other whole : AddressRange} {ranges : List AddressRange} {index : Nat}

/-- The range begins inside the other one, behind its first address. -/
def Cuts (range other : AddressRange) : Prop :=
  0 < range.count ∧ other.base.toNat < range.base.toNat ∧ range.base.toNat < other.stop

instance : Std.Symm Disjoint := ⟨fun _ _ ↦ Disjoint.symm⟩

/-- Of disjoint ranges only one contains an address. -/
theorem eq_of_contains (hdisjoint : ranges.Pairwise Disjoint) (hrange : range ∈ ranges)
    (hother : other ∈ ranges) (hindex : range.Contains index) (hin : other.Contains index) :
    range = other := by
  by_contra hne
  exact hdisjoint.forall hrange hother hne index hindex hin

/-- One of disjoint ranges contains all of a range exactly if each of its addresses is in one of
them and none of them cuts it. -/
theorem exists_range_iff (hdisjoint : ranges.Pairwise Disjoint) (hcount : 0 < whole.count) :
    (∃ range ∈ ranges, ∀ index, whole.Contains index → range.Contains index) ↔
      (∀ index, whole.Contains index → ∃ range ∈ ranges, range.Contains index) ∧
        ∀ range ∈ ranges, ¬ range.Cuts whole := by
  have hfirst : whole.Contains whole.base.toNat := ⟨le_rfl, Nat.lt_add_of_pos_right hcount⟩
  constructor
  · rintro ⟨range, hrange, hall⟩
    refine ⟨fun index hindex ↦ ⟨range, hrange, hall index hindex⟩, ?_⟩
    rintro other hother ⟨hpositive, habove, hbelow⟩
    have hbase : range.Contains other.base.toNat := hall _ ⟨habove.le, hbelow⟩
    cases eq_of_contains hdisjoint hrange hother hbase ⟨le_rfl, Nat.lt_add_of_pos_right hpositive⟩
    exact absurd (hall _ hfirst).1 (Nat.not_le_of_lt habove)
  · rintro ⟨hmapped, hcuts⟩
    obtain ⟨range, hrange, hstart⟩ := hmapped _ hfirst
    refine ⟨range, hrange, ?_⟩
    -- From each address on, the next one stays in the range, as no other range begins there.
    have hall : ∀ offset, offset < whole.count → range.Contains (whole.base.toNat + offset) := by
      intro offset
      induction offset with
      | zero => exact fun _ ↦ hstart
      | succ offset ih =>
        intro hoffset
        have hprevious := ih (Nat.lt_of_succ_lt hoffset)
        obtain ⟨other, hother, hnext⟩ :=
          hmapped (whole.base.toNat + (offset + 1)) ⟨by omega, by omega⟩
        by_cases hbase : other.base.toNat ≤ whole.base.toNat + offset
        · have hin : other.Contains (whole.base.toNat + offset) :=
            ⟨hbase, Nat.lt_of_succ_lt hnext.2⟩
          rwa [eq_of_contains hdisjoint hrange hother hprevious hin]
        · obtain ⟨hle, hlt⟩ := hnext
          have hcut : other.Cuts whole := ⟨by omega, by omega, by unfold stop; omega⟩
          exact absurd hcut (hcuts other hother)
    intro index hindex
    have hin := hall (index - whole.base.toNat) (Nat.sub_lt_left_of_lt_add hindex.1 hindex.2)
    rwa [Nat.add_sub_cancel' hindex.1] at hin

end AddressRange

/-- The read succeeds. -/
def Memory.Readable (memory : Memory) (address : UInt64) (count : Nat) : Prop :=
  ∃ found, memory.read address count = .ok found

namespace Snapshot

open AddressRange

variable {snapshot result : Snapshot} {address base : UInt64} {count index place : Nat}
  {data : List UInt8} {steps : List Step} {ranges pieces pieces' : List AddressRange}
  {new : AddressRange}

theorem readable_iff_covered :
    snapshot.memory.Readable address count ↔ snapshot.Covered address count := by
  constructor
  · rintro ⟨found, hread⟩
    by_contra hcovered
    have hfailed := read_of_not_covers fun region hregion hcovers ↦
      hcovered ⟨region, hregion, hcovers⟩
    cases hread.symm.trans hfailed
  · rintro ⟨region, hregion, hcovers⟩
    obtain ⟨found, hfound⟩ :
        ∃ found, snapshot.regions.find? (·.Covers address count) = some found :=
      Option.isSome_iff_exists.1 (List.find?_isSome.2 ⟨region, hregion, decide_eq_true hcovers⟩)
    refine ⟨found.slice address count, Memory.read_eq_ok_iff.2 ?_⟩
    show Region.read? snapshot.regions address count = _
    rw [Region.read?, if_pos hcovers.lt_size, hfound, Option.map_some]

/-! ## The pieces of a snapshot -/

/-- One of the ranges begins where a later one ends. -/
def Seam (ranges : List AddressRange) (place : Nat) : Prop :=
  ∃ upper lower, [upper, lower].Sublist ranges ∧ 0 < upper.count ∧ 0 < lower.count ∧
    upper.base.toNat = place ∧ lower.stop = place

theorem seam_append_iff : Seam (ranges ++ [new]) place ↔ Seam ranges place ∨
    ∃ upper ∈ ranges, 0 < upper.count ∧ 0 < new.count ∧ upper.base.toNat = place ∧
      new.stop = place := by
  have hpair : ∀ upper lower : AddressRange, [upper, lower].Sublist (ranges ++ [new]) ↔
      [upper, lower].Sublist ranges ∨ upper ∈ ranges ∧ lower = new := by
    intro upper lower
    constructor
    · intro hsublist
      obtain ⟨first, second, hsplit, hfirst, hsecond⟩ := List.sublist_append_iff.1 hsublist
      rcases List.sublist_singleton.1 hsecond with rfl | rfl
      · rw [List.append_nil] at hsplit
        exact .inl (hsplit ▸ hfirst)
      · have hpairs : [upper] ++ [lower] = first ++ [new] := hsplit
        obtain ⟨rfl, hlower⟩ := List.append_inj' hpairs rfl
        exact .inr ⟨List.singleton_sublist.1 hfirst, List.singleton_inj.1 hlower⟩
    · rintro (hsublist | ⟨hupper, rfl⟩)
      · exact hsublist.trans (List.sublist_append_left _ _)
      · exact (List.singleton_sublist.2 hupper).append (List.Sublist.refl [lower])
  unfold Seam
  simp only [hpair]
  constructor
  · rintro ⟨upper, lower, hsublist | ⟨hupper, rfl⟩, h⟩
    · exact .inl ⟨upper, lower, hsublist, h⟩
    · exact .inr ⟨upper, hupper, h⟩
  · rintro (⟨upper, lower, hsublist, h⟩ | ⟨upper, hupper, h⟩)
    · exact ⟨upper, lower, .inl hsublist, h⟩
    · exact ⟨upper, new, .inr ⟨hupper, rfl⟩, h⟩

/-- Where the pieces that come of mapping the ranges begin. -/
structure SplitAtSeams (ranges pieces : List AddressRange) : Prop where
  piece_of_seam : ∀ place, Seam ranges place →
    ∃ piece ∈ pieces, 0 < piece.count ∧ piece.base.toNat = place
  /-- A piece that begins behind a mapped address begins at a seam, unless an empty range was
  mapped there, which is a piece to which the next range there is added. -/
  seam_of_piece : ∀ piece ∈ pieces, 0 < piece.count → ∀ index, index + 1 = piece.base.toNat →
    (∃ range ∈ ranges, range.Contains index) → Seam ranges (index + 1) ∨ ⟨piece.base, 0⟩ ∈ ranges
  mem_of_empty : ∀ piece ∈ pieces, piece.count = 0 → piece ∈ ranges

/-- One more range is mapped at addresses that are free: it is added to a piece that ends where it
begins, or is a piece of its own if there is none. -/
structure Adds (ranges pieces : List AddressRange) (new : AddressRange)
    (pieces' : List AddressRange) : Prop where
  cover : ∀ index, (∃ piece ∈ pieces, piece.Contains index) ↔
    ∃ range ∈ ranges, range.Contains index
  free : ∀ index, new.Contains index → ¬ ∃ range ∈ ranges, range.Contains index
  kept : ∀ piece ∈ pieces, ∃ piece' ∈ pieces', piece'.base = piece.base ∧ piece.count ≤ piece'.count
  cases : ∀ piece' ∈ pieces', piece' ∈ pieces ∨
    (∃ piece ∈ pieces, piece' = ⟨piece.base, piece.count + new.count⟩) ∨
    piece' = new ∧ ∀ piece ∈ pieces, piece.stop ≠ new.base.toNat

namespace Adds

/-- What is mapped right behind the last address of the new range is a range that begins there. -/
theorem seam_behind (h : Adds ranges pieces new pieces') (hindex : new.Contains index)
    (hnext : ∃ range ∈ ranges, range.Contains (index + 1)) : Seam (ranges ++ [new]) (index + 1) := by
  obtain ⟨upper, hupper, hnext⟩ := hnext
  refine seam_append_iff.2 (.inr ⟨upper, hupper, ?_⟩)
  have hbase : ¬ upper.base.toNat ≤ index := fun hle ↦
    h.free index hindex ⟨upper, hupper, hle, Nat.lt_of_succ_lt hnext.2⟩
  have hstop : ¬ new.Contains (index + 1) := fun hin ↦ h.free _ hin ⟨upper, hupper, hnext⟩
  unfold Contains at hindex hnext hstop
  unfold stop
  omega

/-- A piece begins at a new seam already, since no address before it was mapped. -/
theorem piece_of_seam (h : Adds ranges pieces new pieces') (hsplit : SplitAtSeams ranges pieces)
    (hplace : Seam (ranges ++ [new]) place) :
    ∃ piece ∈ pieces, 0 < piece.count ∧ piece.base.toNat = place := by
  rcases seam_append_iff.1 hplace with hold | ⟨upper, hupper, hpositive, hcount, hbase, hstop⟩
  · exact hsplit.piece_of_seam place hold
  · obtain ⟨piece, hpiece, hin⟩ := (h.cover place).2 ⟨upper, hupper, hbase.le, by omega⟩
    refine ⟨piece, hpiece, by unfold Contains at hin; omega, ?_⟩
    by_contra hne
    have hlast : new.Contains (place - 1) := by
      unfold stop at hstop
      exact ⟨by omega, by omega⟩
    refine h.free (place - 1) hlast ((h.cover _).1 ⟨piece, hpiece, ?_⟩)
    unfold Contains at hin ⊢
    omega

/-- Before a piece that grows, or stays as it is, is a seam or nothing. -/
theorem seam_of_kept {piece range : AddressRange} (h : Adds ranges pieces new pieces')
    (hsplit : SplitAtSeams ranges pieces) (hpiece : piece ∈ pieces)
    (hindex : index + 1 = piece.base.toNat) (hrange : range ∈ ranges ++ [new])
    (hcontains : range.Contains index) :
    Seam (ranges ++ [new]) (index + 1) ∨ ⟨piece.base, 0⟩ ∈ ranges ++ [new] := by
  rcases Nat.eq_zero_or_pos piece.count with hempty | hfilled
  · rw [← hempty]
    exact .inr (List.mem_append_left [new] (hsplit.mem_of_empty piece hpiece hempty))
  · rcases List.mem_append.1 hrange with hrange | hrange
    · rcases hsplit.seam_of_piece piece hpiece hfilled index hindex ⟨range, hrange, hcontains⟩ with
        hseam | hmem
      · exact .inl (seam_append_iff.2 (.inl hseam))
      · exact .inr (List.mem_append_left _ hmem)
    · cases List.mem_singleton.1 hrange
      have hnext : piece.Contains (index + 1) := ⟨hindex.symm.le, by omega⟩
      exact .inl (h.seam_behind hcontains ((h.cover _).1 ⟨piece, hpiece, hnext⟩))

/-- Before a piece that is new, no address is mapped. -/
theorem not_contains_before {range : AddressRange} (h : Adds ranges pieces new pieces')
    (hstop : ∀ piece ∈ pieces, piece.stop ≠ new.base.toNat) (hpositive : 0 < new.count)
    (hindex : index + 1 = new.base.toNat) (hrange : range ∈ ranges ++ [new]) :
    ¬ range.Contains index := by
  intro hcontains
  rcases List.mem_append.1 hrange with hrange | hrange
  · obtain ⟨piece, hpiece, hin⟩ := (h.cover index).2 ⟨range, hrange, hcontains⟩
    have hne := hstop piece hpiece
    have hnext : piece.Contains (index + 1) := by
      unfold stop at hne
      unfold Contains at hin ⊢
      omega
    have hnew : new.Contains (index + 1) := ⟨hindex.symm.le, by omega⟩
    exact h.free _ hnew ((h.cover _).1 ⟨piece, hpiece, hnext⟩)
  · cases List.mem_singleton.1 hrange
    exact absurd hcontains.1 (by omega)

end Adds

theorem SplitAtSeams.append (hsplit : SplitAtSeams ranges pieces) (h : Adds ranges pieces new pieces') :
    SplitAtSeams (ranges ++ [new]) pieces' := by
  refine ⟨?_, ?_, ?_⟩
  · intro place hplace
    obtain ⟨piece, hpiece, hpositive, hbase⟩ := h.piece_of_seam hsplit hplace
    obtain ⟨piece', hpiece', hsame, hle⟩ := h.kept piece hpiece
    exact ⟨piece', hpiece', Nat.lt_of_lt_of_le hpositive hle, by rw [hsame, hbase]⟩
  · rintro piece' hpiece' hpositive index hindex ⟨range, hrange, hcontains⟩
    rcases h.cases piece' hpiece' with hpiece | ⟨piece, hpiece, rfl⟩ | ⟨rfl, hstop⟩
    · exact h.seam_of_kept hsplit hpiece hindex hrange hcontains
    · have hseam := h.seam_of_kept hsplit hpiece hindex hrange hcontains
      exact hseam
    · exact absurd hcontains (h.not_contains_before hstop hpositive hindex hrange)
  · intro piece' hpiece' hempty
    rcases h.cases piece' hpiece' with hpiece | ⟨piece, hpiece, rfl⟩ | ⟨rfl, -⟩
    · exact List.mem_append_left _ (hsplit.mem_of_empty piece' hpiece hempty)
    · obtain ⟨hzero, hnone⟩ := Nat.add_eq_zero_iff.1 hempty
      have hmem := hsplit.mem_of_empty piece hpiece hzero
      rw [hnone, Nat.add_zero]
      exact List.mem_append_left _ hmem
    · exact List.mem_append_right _ List.mem_cons_self

theorem map_range_of_write? (h : snapshot.write? address data = some result) :
    result.regions.map Region.range = snapshot.regions.map Region.range := by
  obtain ⟨regions, hregions, rfl⟩ := Option.map_eq_some_iff.1 h
  obtain ⟨before, region, after, hsplit, hholds, rfl⟩ := writeRegions?_eq_some hregions
  rw [hsplit, List.map_append, List.map_append, List.map_cons, List.map_cons,
    Region.range_overwrite hholds]

/-- Mapping a range is adding it to the pieces. -/
theorem adds_map (h : WellPlaced (steps ++ [.map base count])) :
    Adds (mappedRanges steps) ((run steps).regions.map Region.range) ⟨base, count⟩
      (((run steps).map base count).regions.map Region.range) := by
  have hrun := represents_run h.of_append
  have hdisjoint := h.disjoint
  rw [mappedRanges_append_map] at hdisjoint
  have hfree : ∀ index, (AddressRange.mk base count).Contains index →
      ¬ ∃ range ∈ mappedRanges steps, range.Contains index := by
    rintro index hindex ⟨range, hrange, hin⟩
    exact (List.pairwise_append.1 hdisjoint).2.2 range hrange _ List.mem_cons_self index hin hindex
  have hcover : ∀ index,
      (∃ piece ∈ (run steps).regions.map Region.range, piece.Contains index) ↔
        ∃ range ∈ mappedRanges steps, range.Contains index := by
    intro index
    rw [← hrun.mapped_iff index]
    simp only [List.mem_map, exists_exists_and_eq_and]
  rcases mapRegions_cases base count (run steps).regions with
    ⟨before, region, after, hregions, -, hmap⟩ | ⟨hnone, hmap⟩
  · have hgrown : (region.extend count).range = ⟨region.base, region.range.count + count⟩ := by
      simp [Region.range, Region.extend]
    rw [Snapshot.map, hmap]
    rw [hregions, List.map_append, List.map_cons] at hcover ⊢
    rw [List.map_append, List.map_cons, hgrown]
    refine ⟨hcover, hfree, ?_, ?_⟩
    · intro piece hpiece
      rcases List.mem_cons.1 (List.perm_middle.mem_iff.1 hpiece) with rfl | hpiece
      · exact ⟨_, List.mem_append_right _ List.mem_cons_self, rfl, Nat.le_add_right _ _⟩
      · exact ⟨piece, List.perm_middle.mem_iff.2 (List.mem_cons_of_mem _ hpiece), rfl, le_rfl⟩
    · intro piece' hpiece'
      rcases List.mem_cons.1 (List.perm_middle.mem_iff.1 hpiece') with rfl | hpiece'
      · exact .inr (.inl ⟨_, List.mem_append_right _ List.mem_cons_self, rfl⟩)
      · exact .inl (List.perm_middle.mem_iff.2 (List.mem_cons_of_mem _ hpiece'))
  · rw [Snapshot.map, hmap]
    rw [List.map_append, List.map_singleton, Region.range_replicate]
    refine ⟨hcover, hfree, ?_, ?_⟩
    · exact fun piece hpiece ↦ ⟨piece, List.mem_append_left _ hpiece, rfl, le_rfl⟩
    · intro piece' hpiece'
      rcases List.mem_append.1 hpiece' with hpiece' | hpiece'
      · exact .inl hpiece'
      · refine .inr (.inr ⟨List.mem_singleton.1 hpiece', ?_⟩)
        intro piece hpiece
        obtain ⟨region, hregion, rfl⟩ := List.mem_map.1 hpiece
        rw [← Region.stop_toNat (hrun.stop_lt region hregion)]
        exact fun heq ↦ hnone region hregion (UInt64.toNat_inj.1 heq)

theorem splitAtSeams_run (h : WellPlaced steps) :
    SplitAtSeams (mappedRanges steps) ((run steps).regions.map Region.range) := by
  induction steps using List.reverseRecOn with
  | nil =>
    refine ⟨?_, by simp [run, empty], by simp [run, empty]⟩
    rintro place ⟨upper, lower, hsublist, -⟩
    cases hsublist
  | append_singleton steps step ih =>
    have hsteps := ih h.of_append
    rw [run_append, Step.apply]
    cases step with
    | write address data =>
      rw [mappedRanges_append_write]
      cases hwrite : (Step.write address data).result? (run steps) with
      | none => exact hsteps
      | some result =>
        rw [Option.getD_some, map_range_of_write? hwrite]
        exact hsteps
    | map base count =>
      rw [mappedRanges_append_map, Step.result?, Option.getD_some]
      exact hsteps.append (adds_map h)

/-- No empty range was mapped behind the first of the addresses. -/
def NoEmptyWithin (ranges : List AddressRange) (address : UInt64) (count : Nat) : Prop :=
  ∀ range ∈ ranges, range.count = 0 →
    ¬ (address < range.base ∧ range.base.toNat < address.toNat + count)

/-- The range goes over a seam. -/
def CrossesSeam (ranges : List AddressRange) (address : UInt64) (count : Nat) : Prop :=
  ∃ place, Seam ranges place ∧ address.toNat < place ∧ place < address.toNat + count

theorem covered_iff_exists_range (hbelow : ∀ region ∈ snapshot.regions, region.range.stop < UInt64.size)
    (hcount : 0 < count) : snapshot.Covered address count ↔
      ∃ piece ∈ snapshot.regions.map Region.range, ∀ index,
        (AddressRange.mk address count).Contains index → piece.Contains index := by
  simp only [Covered, List.mem_map, exists_exists_and_eq_and]
  exact exists_congr fun region ↦ and_congr_right fun hregion ↦
    Region.covers_iff_contains (hbelow region hregion) hcount

theorem covered_run_iff (h : WellPlaced steps) (hcount : 0 < count)
    (hempty : NoEmptyWithin (mappedRanges steps) address count) :
    (run steps).Covered address count ↔
      (∀ index, (AddressRange.mk address count).Contains index →
        ∃ range ∈ mappedRanges steps, range.Contains index) ∧
      ¬ CrossesSeam (mappedRanges steps) address count := by
  have hrun := represents_run h
  have hsplit := splitAtSeams_run h
  have hwhole : 0 < (AddressRange.mk address count).count := hcount
  have hmapped : (∀ index, (AddressRange.mk address count).Contains index →
        ∃ piece ∈ (run steps).regions.map Region.range, piece.Contains index) ↔
      ∀ index, (AddressRange.mk address count).Contains index →
        ∃ range ∈ mappedRanges steps, range.Contains index := by
    simp only [← hrun.mapped_iff, List.mem_map, exists_exists_and_eq_and]
  rw [covered_iff_exists_range hrun.stop_lt hcount, exists_range_iff hrun.disjoint hwhole, hmapped]
  refine and_congr_right fun hall ↦ ?_
  constructor
  · rintro hcuts ⟨place, hseam, habove, hbelow⟩
    obtain ⟨piece, hpiece, hpositive, rfl⟩ := hsplit.piece_of_seam place hseam
    exact hcuts piece hpiece ⟨hpositive, habove, hbelow⟩
  · rintro hcrosses piece hpiece ⟨hpositive, habove, hbelow⟩
    have hindex : piece.base.toNat - 1 + 1 = piece.base.toNat := by
      dsimp only at habove
      omega
    have hbefore := hall (piece.base.toNat - 1)
      ⟨by dsimp only at habove ⊢; omega, by unfold stop at hbelow; dsimp only at hbelow ⊢; omega⟩
    rcases hsplit.seam_of_piece piece hpiece hpositive _ hindex hbefore with hseam | hmem
    · rw [hindex] at hseam
      exact hcrosses ⟨_, hseam, habove, hbelow⟩
    · exact hempty _ hmem rfl ⟨habove, hbelow⟩

/-! ## The order of the ranges -/

/-- Map the ranges one after another, then write the data to the addresses. -/
def assemble (ranges : List AddressRange) (writes : List (UInt64 × List UInt8)) : List Step :=
  ranges.map (fun range ↦ .map range.base range.count) ++
    writes.map fun (address, data) ↦ .write address data

variable {order order' : List AddressRange} {writes : List (UInt64 × List UInt8)}

theorem mappedRanges_assemble : mappedRanges (assemble ranges writes) = ranges := by
  have hmaps : (ranges.map fun range ↦ Step.map range.base range.count).filterMap Step.mapped? =
      ranges := by
    rw [List.filterMap_map]
    exact List.filterMap_some
  have hwrites : (writes.map fun (address, data) ↦ Step.write address data).filterMap Step.mapped? =
      [] := by
    rw [List.filterMap_map]
    exact List.filterMap_eq_nil_iff.2 fun _ _ ↦ rfl
  rw [mappedRanges, assemble, List.filterMap_append, hmaps, hwrites, List.append_nil]

theorem assemble_append (write : UInt64 × List UInt8) :
    assemble ranges (writes ++ [write]) = assemble ranges writes ++ [.write write.1 write.2] := by
  rw [assemble, assemble, List.map_append, List.append_assoc]
  rfl

/-- Nothing but zeros is read where nothing was written. -/
theorem lastByte_assemble_nil : lastByte (assemble ranges []) = fun _ ↦ 0 := by
  have hmaps : assemble ranges [] = ranges.map fun range ↦ .map range.base range.count :=
    List.append_nil _
  rw [hmaps]
  induction ranges using List.reverseRecOn with
  | nil => rfl
  | append_singleton ranges last ih =>
    have happly : (Step.map last.base last.count).result? (run (ranges.map fun range ↦
        .map range.base range.count)) = some _ := rfl
    rw [List.map_append, List.map_singleton, lastByte_append_of_eq_some happly,
      ih (List.append_nil _)]
    rfl

section Written

variable (hplaced : WellPlaced steps)
include hplaced

/-- A write that some region covers counts. -/
theorem lastByte_append_of_covered (h : (run steps).Covered address data.length) :
    lastByte (steps ++ [.write address data]) = fun index ↦
      ((Step.write address data).byte? index).getD (lastByte steps index) := by
  obtain ⟨region, hregion, hcovers⟩ := h
  cases hwrite : (Step.write address data).result? (run steps) with
  | none =>
    exact absurd hcovers
      ((write?_eq_none_iff (represents_run hplaced).stop_lt).1 hwrite region hregion)
  | some result => exact lastByte_append_of_eq_some hwrite

theorem lastByte_append_of_not_covered (h : ¬ (run steps).Covered address data.length) :
    lastByte (steps ++ [.write address data]) = lastByte steps :=
  lastByte_append_of_eq_none <| (write?_eq_none_iff (represents_run hplaced).stop_lt).2
    fun region hregion hcovers ↦ h ⟨region, hregion, hcovers⟩

/-- A write of no bytes counts for nothing, whether or not it succeeds. -/
theorem lastByte_append_nil : lastByte (steps ++ [.write address []]) = lastByte steps := by
  by_cases hcovered : (run steps).Covered address ([] : List UInt8).length
  · rw [lastByte_append_of_covered hplaced hcovered]
    funext index
    have hnone : ¬ (AddressRange.mk address ([] : List UInt8).length).Contains index :=
      fun hin ↦ Nat.not_lt_of_le hin.1 hin.2
    rw [Step.byte?_write_of_not_contains hnone, Option.getD_none]
  · exact lastByte_append_of_not_covered hplaced hcovered

end Written

/-- The ranges are the same, none of them is empty, and the seams between them are the same. -/
structure SameSeams (order order' : List AddressRange) : Prop where
  perm : order.Perm order'
  nonempty : ∀ range ∈ order, 0 < range.count
  seam_iff : ∀ place, Seam order place ↔ Seam order' place

namespace SameSeams

variable (h : SameSeams order order') (hplaced : WellPlaced (assemble order writes))
include h

theorem wellPlaced (hplaced : WellPlaced (assemble order writes)) :
    WellPlaced (assemble order' writes) := by
  obtain ⟨hdisjoint, hbelow⟩ := hplaced
  constructor
  · rw [mappedRanges_assemble] at hdisjoint ⊢
    exact (h.perm.pairwise_iff AddressRange.Disjoint.symm).1 hdisjoint
  · rw [mappedRanges_assemble] at hbelow ⊢
    exact fun range hrange ↦ hbelow range (h.perm.mem_iff.2 hrange)

include hplaced

theorem covered_iff (hcount : 0 < count) : (run (assemble order writes)).Covered address count ↔
    (run (assemble order' writes)).Covered address count := by
  have hempty : NoEmptyWithin order address count :=
    fun range hrange hzero ↦ absurd hzero (h.nonempty range hrange).ne'
  have hempty' : NoEmptyWithin order' address count :=
    fun range hrange ↦ hempty range (h.perm.mem_iff.2 hrange)
  rw [covered_run_iff hplaced hcount (by rwa [mappedRanges_assemble]),
    covered_run_iff (h.wellPlaced hplaced) hcount (by rwa [mappedRanges_assemble]),
    mappedRanges_assemble, mappedRanges_assemble]
  simp only [CrossesSeam, h.seam_iff, h.perm.mem_iff]

theorem lastByte_eq : lastByte (assemble order writes) = lastByte (assemble order' writes) := by
  induction writes using List.reverseRecOn with
  | nil => rw [lastByte_assemble_nil, lastByte_assemble_nil]
  | append_singleton writes write ih =>
    obtain ⟨address, data⟩ := write
    rw [assemble_append] at hplaced
    have hbefore := hplaced.of_append
    have hbefore' := h.wellPlaced hbefore
    rw [assemble_append, assemble_append]
    dsimp only
    rcases Nat.eq_zero_or_pos data.length with hempty | hpositive
    · cases List.length_eq_zero_iff.1 hempty
      rw [lastByte_append_nil hbefore, lastByte_append_nil hbefore', ih hbefore]
    · have hcovered : (run (assemble order writes)).Covered address data.length ↔
          (run (assemble order' writes)).Covered address data.length :=
        h.covered_iff hbefore hpositive
      by_cases hfirst : (run (assemble order writes)).Covered address data.length
      · rw [lastByte_append_of_covered hbefore hfirst,
          lastByte_append_of_covered hbefore' (hcovered.1 hfirst), ih hbefore]
      · rw [lastByte_append_of_not_covered hbefore hfirst,
          lastByte_append_of_not_covered hbefore' (mt hcovered.2 hfirst), ih hbefore]

theorem read_eq (hcount : 0 < count) :
    (run (assemble order writes)).memory.read address count =
      (run (assemble order' writes)).memory.read address count := by
  have hrun := represents_run hplaced
  have hrun' := represents_run (h.wellPlaced hplaced)
  by_cases hcovered : (run (assemble order writes)).Covered address count
  · obtain ⟨region, hregion, hcovers⟩ := hcovered
    obtain ⟨region', hregion', hcovers'⟩ :=
      (h.covered_iff hplaced hcount).1 ⟨region, hregion, hcovers⟩
    rw [hrun.read_of_covers hregion hcovers, hrun'.read_of_covers hregion' hcovers',
      h.lastByte_eq hplaced]
  · have hcovered' := mt (h.covered_iff hplaced hcount).2 hcovered
    rw [read_of_not_covers fun region hregion hin ↦ hcovered ⟨region, hregion, hin⟩,
      read_of_not_covers fun region hregion hin ↦ hcovered' ⟨region, hregion, hin⟩]

end SameSeams

end Snapshot

/-! ## Core dumps -/

/-- The addresses of the segment. -/
def LoadSegment.range (segment : LoadSegment) : AddressRange := ⟨segment.base, segment.size.toNat⟩

theorem CoreDump.readable_iff {core : CoreDump} {address : UInt64} {count : Nat}
    (hsegments : ∀ segment ∈ core.segments, segment.WellFormed)
    (hstored : ∀ segment ∈ core.segments, segment.IsStored core.contents)
    (hdisjoint : (core.segments.map (·.range)).Pairwise AddressRange.Disjoint)
    (hcount : 0 < count) :
    core.memory.Readable address count ↔
      (∀ index, (AddressRange.mk address count).Contains index →
        ∃ segment ∈ core.segments, segment.range.Contains index) ∧
      ∀ segment ∈ core.segments, ¬ segment.range.Cuts ⟨address, count⟩ := by
  have hregions : core.segments.map (fun segment ↦ (segment.region core.contents).range) =
      core.segments.map (·.range) := by
    apply List.map_congr_left
    intro segment hsegment
    have hstop := LoadSegment.stop_region (hsegments segment hsegment) (hstored segment hsegment)
    exact congrArg (AddressRange.mk segment.base) (Nat.add_left_cancel hstop)
  let snapshot : Snapshot := ⟨core.segments.map (·.region core.contents)⟩
  have hread : core.memory.Readable address count ↔ snapshot.memory.Readable address count := by
    have hbytes : core.memory.bytes? address count = snapshot.memory.bytes? address count :=
      bytes?_eq_read? hsegments hstored
    simp only [Memory.Readable, Memory.read_eq_ok_iff, hbytes]
  have hstop : ∀ region ∈ snapshot.regions, region.range.stop < UInt64.size := by
    intro region hregion
    obtain ⟨segment, hsegment, rfl⟩ := List.mem_map.1 hregion
    rw [LoadSegment.stop_region (hsegments segment hsegment) (hstored segment hsegment)]
    exact (hsegments segment hsegment).stop_lt
  have hcovered : snapshot.Covered address count ↔ ∃ range ∈ core.segments.map (·.range), ∀ index,
      (AddressRange.mk address count).Contains index → range.Contains index := by
    rw [← hregions, Snapshot.covered_iff_exists_range hstop hcount]
    simp only [snapshot, List.map_map, Function.comp_def]
  have hwhole : 0 < (AddressRange.mk address count).count := hcount
  rw [hread, Snapshot.readable_iff_covered, hcovered,
    AddressRange.exists_range_iff hdisjoint hwhole]
  simp only [List.mem_map, exists_exists_and_eq_and, forall_exists_index, and_imp,
    forall_apply_eq_imp_iff₂]

/-! ## Readable ranges -/

namespace Snapshot

/-- A range of a snapshot can be read if each of its addresses is mapped and it goes over no seam,
and a range of a core dump if each of its addresses is in a segment and no segment begins inside it.
What is read in a snapshot depends on the order of the mapped ranges only by the seams between
them. -/
theorem readable_iff_no_seam :
    (∀ steps, WellPlaced steps → ∀ address count, 0 < count →
      NoEmptyWithin (mappedRanges steps) address count →
      ((run steps).memory.Readable address count ↔
        (∀ index, (AddressRange.mk address count).Contains index →
          ∃ range ∈ mappedRanges steps, range.Contains index) ∧
        ¬ CrossesSeam (mappedRanges steps) address count)) ∧
    (∀ core : CoreDump, (∀ segment ∈ core.segments, segment.WellFormed) →
      (∀ segment ∈ core.segments, segment.IsStored core.contents) →
      (core.segments.map (·.range)).Pairwise AddressRange.Disjoint →
      ∀ address count, 0 < count →
      (core.memory.Readable address count ↔
        (∀ index, (AddressRange.mk address count).Contains index →
          ∃ segment ∈ core.segments, segment.range.Contains index) ∧
        ∀ segment ∈ core.segments, ¬ segment.range.Cuts ⟨address, count⟩)) ∧
    ∀ order order', SameSeams order order' → ∀ writes, WellPlaced (assemble order writes) →
      ∀ address count, 0 < count →
      (run (assemble order writes)).memory.read address count =
        (run (assemble order' writes)).memory.read address count := by
  refine ⟨?_, ?_, ?_⟩
  · intro steps hplaced address count hcount hempty
    rw [readable_iff_covered]
    exact covered_run_iff hplaced hcount hempty
  · intro core hsegments hstored hdisjoint address count hcount
    exact core.readable_iff hsegments hstored hdisjoint hcount
  · intro order order' hsame writes hplaced address count hcount
    exact hsame.read_eq hplaced hcount

/-- Two adjacent ranges and one apart, mapped from the lowest on. -/
def ascending : List AddressRange := [⟨0x1000, 16⟩, ⟨0x1010, 16⟩, ⟨0x2000, 4⟩]

/-- The range apart is mapped first. -/
def apartFirst : List AddressRange := [⟨0x2000, 4⟩, ⟨0x1000, 16⟩, ⟨0x1010, 16⟩]

/-- The upper one of the adjacent ranges is mapped first. -/
def upperFirst : List AddressRange := [⟨0x1010, 16⟩, ⟨0x1000, 16⟩]

/-- Two segments, of which one ends where the other one begins. -/
def adjacentCore : CoreDump :=
  ⟨"core", ⟨Array.replicate 32 7⟩, [⟨0x1000, 0, 16, 16⟩, ⟨0x1010, 16, 16, 16⟩]⟩

theorem disjoint_adjacent : (AddressRange.mk 0x1000 16).Disjoint ⟨0x1010, 16⟩ :=
  AddressRange.disjoint_of_le (by decide)

theorem wellPlaced_ascending (writes : List (UInt64 × List UInt8)) :
    WellPlaced (assemble ascending writes) := by
  have hlower : (AddressRange.mk 0x1000 16).Disjoint ⟨0x2000, 4⟩ :=
    AddressRange.disjoint_of_le (by decide)
  have hupper : (AddressRange.mk 0x1010 16).Disjoint ⟨0x2000, 4⟩ :=
    AddressRange.disjoint_of_le (by decide)
  constructor
  · rw [mappedRanges_assemble]
    simp [ascending, disjoint_adjacent, hlower, hupper]
  · rw [mappedRanges_assemble]
    decide

/-- No seam is there if no range ends where one before it begins. -/
theorem not_seam_of_pairwise (h : ranges.Pairwise fun upper lower ↦
    0 < upper.count → lower.stop ≠ upper.base.toNat) : ¬ Seam ranges place := by
  rintro ⟨upper, lower, hsublist, hpositive, -, hbase, hstop⟩
  exact List.pairwise_iff_forall_sublist.1 h hsublist hpositive (hstop.trans hbase.symm)

theorem sameSeams_apartFirst : SameSeams ascending apartFirst where
  perm := by decide
  nonempty := by decide
  seam_iff place := by
    have hascending : ¬ Seam ascending place := not_seam_of_pairwise (by decide)
    have hapart : ¬ Seam apartFirst place := not_seam_of_pairwise (by decide)
    exact iff_of_false hascending hapart

theorem readable_iff_no_seam_adjacent :
    WellPlaced (assemble ascending [(0x100F, [1, 2])]) ∧
    (run (assemble ascending [(0x100F, [1, 2])])).memory.read 0x100E 4 = .ok [0, 1, 2, 0] ∧
    ¬ CrossesSeam ascending 0x100E 4 ∧
    (∀ segment ∈ adjacentCore.segments, ¬ segment.range.Cuts ⟨0x1008, 8⟩) ∧
    SameSeams ascending apartFirst ∧
    (run (assemble apartFirst [(0x100F, [1, 2])])).memory.read 0x100E 4 = .ok [0, 1, 2, 0] := by
  obtain ⟨hsnapshot, hcore, horder⟩ := readable_iff_no_seam
  have hplaced := wellPlaced_ascending [(0x100F, [1, 2])]
  have hread : (run (assemble ascending [(0x100F, [1, 2])])).memory.read 0x100E 4 =
      .ok [0, 1, 2, 0] := Memory.read_eq_ok_iff.2 (by decide)
  have hcrosses := ((hsnapshot _ hplaced 0x100E 4 (by decide)
    (by rw [mappedRanges_assemble]; unfold NoEmptyWithin; decide)).1 ⟨_, hread⟩).2
  rw [mappedRanges_assemble] at hcrosses
  have hdisjoint : (adjacentCore.segments.map (·.range)).Pairwise AddressRange.Disjoint := by
    simp [adjacentCore, LoadSegment.range, disjoint_adjacent]
  have hcuts := (hcore adjacentCore (by decide) (by decide) hdisjoint 0x1008 8 (by decide)).1
    ⟨_, Memory.read_eq_ok_iff.2 rfl⟩
  refine ⟨hplaced, hread, hcrosses, hcuts.2, sameSeams_apartFirst, ?_⟩
  rw [← horder _ _ sameSeams_apartFirst _ hplaced _ _ (by decide)]
  exact hread

/-- An empty range is mapped before the two adjacent ones, where they meet. -/
def emptyFirst : List AddressRange := [⟨0x1010, 0⟩, ⟨0x1000, 16⟩, ⟨0x1010, 16⟩]

/-- A range with all of its addresses mapped cannot be read if it goes over a seam, or from one
segment into the next one. The order of the two ranges makes the difference, and where there is no
seam, an empty range between them may stand in the way. -/
theorem not_readable_upperFirst :
    upperFirst.Pairwise AddressRange.Disjoint ∧
    (∀ index, (AddressRange.mk 0x100C 8).Contains index →
      ∃ range ∈ upperFirst, range.Contains index) ∧
    (run (assemble upperFirst [])).memory.read 0x100C 8 = .error (.unreadable 0x100C 8) ∧
    (run (assemble upperFirst.reverse [])).memory.read 0x100C 8 = .ok (List.replicate 8 0) ∧
    adjacentCore.memory.read 0x100C 8 = .error (.unreadable 0x100C 8) ∧
    ¬ CrossesSeam emptyFirst 0x100C 8 ∧
    (run (assemble emptyFirst [])).memory.read 0x100C 8 = .error (.unreadable 0x100C 8) := by
  refine ⟨?_, ?_, ?_, ?_, ?_, ?_, ?_⟩
  · simp [upperFirst, disjoint_adjacent.symm]
  · rintro index ⟨hle, hlt⟩
    have hlow : 0x100C ≤ index := hle
    have hhigh : index < 0x1014 := hlt
    rcases Nat.lt_or_ge index 0x1010 with hbelow | habove
    · refine ⟨⟨0x1000, 16⟩, by decide, ?_⟩
      exact ⟨Nat.le_trans (by decide) hlow, Nat.lt_of_lt_of_le hbelow (by decide)⟩
    · exact ⟨⟨0x1010, 16⟩, by decide, habove, Nat.lt_of_lt_of_le hhigh (by decide)⟩
  · exact Memory.read_eq_error_iff.2 ⟨by decide, rfl⟩
  · exact Memory.read_eq_ok_iff.2 (by decide)
  · exact Memory.read_eq_error_iff.2 ⟨by decide, rfl⟩
  · rintro ⟨place, hseam, -⟩
    exact not_seam_of_pairwise (by decide) hseam
  · exact Memory.read_eq_error_iff.2 ⟨by decide, rfl⟩

end Snapshot

end MemoryInspector
