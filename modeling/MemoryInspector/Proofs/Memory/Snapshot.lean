import MemoryInspector.Proofs.Memory.Region

/-!
# Snapshots as functions on addresses

A snapshot is assembled by steps that map ranges and write bytes. The invariant of its regions is
that they are disjoint and hold the bytes of one function on the addresses. Both kinds of steps
keep it, for a set of mapped addresses and a function that they change in the expected way.
-/

namespace MemoryInspector

namespace Snapshot

inductive Step where
  | map (base : UInt64) (count : Nat)
  | write (address : UInt64) (data : List UInt8)
deriving DecidableEq, Repr

namespace Step

/-- The range that the step maps. -/
def mapped? : Step → Option AddressRange
  | map base count => some ⟨base, count⟩
  | write _ _ => none

/-- The byte that the step writes at an address. -/
def byte? (index : Nat) : Step → Option UInt8
  | map _ _ => none
  | write address data =>
    if (AddressRange.mk address data.length).Contains index then data[index - address.toNat]?
    else none

theorem byte?_write_of_contains {address : UInt64} {data : List UInt8} {index : Nat}
    (h : (AddressRange.mk address data.length).Contains index) :
    (write address data).byte? index = data[index - address.toNat]? := if_pos h

theorem byte?_write_of_not_contains {address : UInt64} {data : List UInt8} {index : Nat}
    (h : ¬ (AddressRange.mk address data.length).Contains index) :
    (write address data).byte? index = none := if_neg h

/-- The snapshot after the step, if the step succeeds. -/
def result? (snapshot : Snapshot) : Step → Option Snapshot
  | map base count => some (snapshot.map base count)
  | write address data => snapshot.write? address data

/-- A step that fails leaves the snapshot as it is. -/
def apply (snapshot : Snapshot) (step : Step) : Snapshot := (step.result? snapshot).getD snapshot

end Step

/-! ## Single steps -/

/-- Mapping extends the first region that ends at the base, or adds a region if there is none. -/
theorem mapRegions_cases (base : UInt64) (count : Nat) (regions : List Region) :
    (∃ before region after, regions = before ++ region :: after ∧ region.stop = base ∧
      mapRegions base count regions = before ++ region.extend count :: after) ∨
    (∀ region ∈ regions, region.stop ≠ base) ∧
      mapRegions base count regions = regions ++ [⟨base, Array.replicate count 0⟩] := by
  induction regions with
  | nil => exact .inr ⟨by simp, rfl⟩
  | cons region rest ih =>
    rw [mapRegions]
    split
    · next hstop => exact .inl ⟨[], region, rest, rfl, hstop, rfl⟩
    · next hstop =>
      rcases ih with ⟨before, found, after, rfl, hfound, hmap⟩ | ⟨hnone, hmap⟩
      · exact .inl ⟨region :: before, found, after, rfl, hfound, by rw [hmap, List.cons_append]⟩
      · exact .inr ⟨List.forall_mem_cons.2 ⟨hstop, hnone⟩, by rw [hmap, List.cons_append]⟩

/-- A write that succeeds replaces bytes of one region. -/
theorem writeRegions?_eq_some {address : UInt64} {data : List UInt8} {regions result : List Region}
    (h : writeRegions? address data regions = some result) :
    ∃ before region after, regions = before ++ region :: after ∧ region.Holds address data.length ∧
      result = before ++ region.overwrite address data :: after := by
  induction regions generalizing result with
  | nil => cases h
  | cons region rest ih =>
    rw [writeRegions?] at h
    split at h
    · next hseems =>
      split at h
      · next hfits =>
        cases h
        exact ⟨[], region, rest, rfl, (Region.fits_iff hseems.1).1 hfits, rfl⟩
      · cases h
    · obtain ⟨others, hothers, rfl⟩ := Option.map_eq_some_iff.1 h
      obtain ⟨before, found, after, rfl, hholds, rfl⟩ := ih hothers
      exact ⟨region :: before, found, after, rfl, hholds, rfl⟩

/-- A write of a range that does not reach 2 ^ 64 fails exactly if no region covers the range. -/
theorem writeRegions?_eq_none_iff {address : UInt64} {data : List UInt8} {regions : List Region}
    (hlt : address.toNat + data.length < UInt64.size) :
    writeRegions? address data regions = none ↔
      ∀ region ∈ regions, ¬ region.Covers address data.length := by
  induction regions with
  | nil => exact iff_of_true rfl (List.forall_mem_nil _)
  | cons region rest ih =>
    have hseems : region.base ≤ address ∧ address + UInt64.ofNat data.length ≤ region.stop ↔
        region.Covers address data.length := and_congr_right fun _ ↦ Region.le_stop_iff hlt
    rw [writeRegions?, List.forall_mem_cons, ← hseems]
    split
    · next h =>
      rw [if_pos ((Region.fits_iff h.1).2 (hseems.1 h).holds)]
      exact iff_of_false nofun fun hnone ↦ hnone.1 h
    · next h =>
      rw [Option.map_eq_none_iff, ih]
      exact (and_iff_right h).symm

/-- Where no region reaches 2 ^ 64, a write fails exactly if no region covers it. -/
theorem write?_eq_none_iff {snapshot : Snapshot} {address : UInt64} {data : List UInt8}
    (hbelow : ∀ region ∈ snapshot.regions, region.range.stop < UInt64.size) :
    snapshot.write? address data = none ↔
      ∀ region ∈ snapshot.regions, ¬ region.Covers address data.length := by
  rw [write?, Option.map_eq_none_iff]
  by_cases hlt : address.toNat + data.length < UInt64.size
  · exact writeRegions?_eq_none_iff hlt
  · refine iff_of_true ?_ fun region _ hcovers ↦ hlt hcovers.lt_size
    rw [Option.eq_none_iff_forall_ne_some]
    intro result hresult
    obtain ⟨before, region, after, hsplit, hholds, -⟩ := writeRegions?_eq_some hresult
    exact hlt (Nat.lt_of_le_of_lt hholds.2 (hbelow region (by simp [hsplit])))

/-! ## The invariant -/

/-- The regions of the snapshot are disjoint and hold the bytes of a function at the addresses of
a set. The function is zero outside the set, so that the bytes which are mapped next agree with
it. -/
structure Represents (snapshot : Snapshot) (mapped : Nat → Prop) (byteAt : Nat → UInt8) : Prop where
  disjoint : (snapshot.regions.map Region.range).Pairwise AddressRange.Disjoint
  mapped_iff : ∀ index, (∃ region ∈ snapshot.regions, region.range.Contains index) ↔ mapped index
  byte?_eq : ∀ region ∈ snapshot.regions, ∀ index, region.range.Contains index →
    region.byte? index = some (byteAt index)
  stop_lt : ∀ region ∈ snapshot.regions, region.range.stop < UInt64.size
  byteAt_eq_zero : ∀ index, ¬ mapped index → byteAt index = 0

theorem represents_empty : empty.Represents (fun _ ↦ False) fun _ ↦ 0 where
  disjoint := List.Pairwise.nil
  mapped_iff index := by simp [empty]
  byte?_eq region hregion := by simp [empty] at hregion
  stop_lt region hregion := by simp [empty] at hregion
  byteAt_eq_zero index _ := rfl

/-- A range may grow by addresses that no other range contains. -/
theorem pairwise_disjoint_replace {before after : List AddressRange} {old new : AddressRange}
    (h : (before ++ old :: after).Pairwise AddressRange.Disjoint)
    (hnew : ∀ index, new.Contains index → old.Contains index ∨
      ∀ other ∈ before ++ after, ¬ other.Contains index) :
    (before ++ new :: after).Pairwise AddressRange.Disjoint := by
  rw [List.pairwise_append, List.pairwise_cons] at h ⊢
  obtain ⟨hbefore, ⟨hold, hafter⟩, hcross⟩ := h
  have hapart : ∀ other ∈ before ++ after, new.Disjoint other := by
    intro other hother index hindex hin
    rcases hnew index hindex with hindex | hnone
    · rcases List.mem_append.1 hother with hother | hother
      · exact hcross other hother old List.mem_cons_self index hin hindex
      · exact hold other hother index hindex hin
    · exact hnone other hother hin
  refine ⟨hbefore, ⟨fun other hother ↦ hapart other (List.mem_append_right _ hother), hafter⟩, ?_⟩
  intro first hfirst second hsecond
  rcases List.mem_cons.1 hsecond with rfl | hsecond
  · exact (hapart first (List.mem_append_left _ hfirst)).symm
  · exact hcross first hfirst second (List.mem_cons_of_mem _ hsecond)

variable {snapshot : Snapshot} {mapped added : Nat → Prop} {byteAt newByteAt : Nat → UInt8}
  {before after : List Region} {region new : Region} {base address : UInt64} {count : Nat}
  {data : List UInt8}

theorem Represents.mapped_of_contains (h : snapshot.Represents mapped byteAt)
    (hregion : region ∈ snapshot.regions) {index : Nat} (hindex : region.range.Contains index) :
    mapped index :=
  (h.mapped_iff index).1 ⟨region, hregion, hindex⟩

/-- One region may take the place of another that it extends by addresses which are not mapped
yet. Its bytes may change, but not those of the other regions. -/
theorem Represents.replace (h : Represents ⟨before ++ region :: after⟩ mapped byteAt)
    (hrange : ∀ index, new.range.Contains index ↔ region.range.Contains index ∨ added index)
    (hadded : ∀ index, added index → ¬ mapped index) (hstop : new.range.stop < UInt64.size)
    (hnew : ∀ index, new.range.Contains index → new.byte? index = some (newByteAt index))
    (hold : ∀ index, ¬ region.range.Contains index → newByteAt index = byteAt index) :
    Represents ⟨before ++ new :: after⟩ (fun index ↦ mapped index ∨ added index) newByteAt := by
  have hmem : ∀ other ∈ before ++ after, other ∈ before ++ region :: after := by
    intro other hother
    exact List.perm_middle.mem_iff.2 (List.mem_cons_of_mem _ hother)
  have hdisjoint := h.disjoint
  rw [List.map_append, List.map_cons] at hdisjoint
  have hapart : ∀ other ∈ before ++ after, region.range.Disjoint other.range := by
    rw [List.pairwise_append, List.pairwise_cons] at hdisjoint
    obtain ⟨-, ⟨hafter, -⟩, hbefore⟩ := hdisjoint
    intro other hother
    rcases List.mem_append.1 hother with hother | hother
    · exact (hbefore _ (List.mem_map_of_mem hother) _ List.mem_cons_self).symm
    · exact hafter _ (List.mem_map_of_mem hother)
  refine ⟨?_, ?_, ?_, ?_, ?_⟩
  · rw [List.map_append, List.map_cons]
    refine pairwise_disjoint_replace hdisjoint fun index hindex ↦ ?_
    refine ((hrange index).1 hindex).imp_right fun hin other hother hcontains ↦ hadded index hin ?_
    rw [← List.map_append] at hother
    obtain ⟨found, hfound, rfl⟩ := List.mem_map.1 hother
    exact h.mapped_of_contains (hmem found hfound) hcontains
  · intro index
    rw [← h.mapped_iff]
    simp only [List.mem_append, List.mem_cons, or_and_right, exists_or, exists_eq_left, hrange]
    grind
  · intro found hfound index hindex
    rcases List.mem_cons.1 (List.perm_middle.mem_iff.1 hfound) with rfl | hfound
    · exact hnew index hindex
    · rw [hold index fun hin ↦ hapart found hfound index hin hindex]
      exact h.byte?_eq found (hmem found hfound) index hindex
  · intro found hfound
    rcases List.mem_cons.1 (List.perm_middle.mem_iff.1 hfound) with rfl | hfound
    · exact hstop
    · exact h.stop_lt found (hmem found hfound)
  · intro index hindex
    have hregion : ¬ region.range.Contains index :=
      fun hin ↦ hindex (.inl (h.mapped_of_contains (by simp) hin))
    rw [hold index hregion]
    exact h.byteAt_eq_zero index fun hin ↦ hindex (.inl hin)

/-- A region of zero bytes may be added at addresses that are not mapped yet. -/
theorem Represents.add (h : snapshot.Represents mapped byteAt)
    (hbelow : base.toNat + count < UInt64.size)
    (hadded : ∀ index, (AddressRange.mk base count).Contains index → ¬ mapped index) :
    Represents ⟨snapshot.regions ++ [⟨base, Array.replicate count 0⟩]⟩
      (fun index ↦ mapped index ∨ (AddressRange.mk base count).Contains index) byteAt := by
  refine ⟨?_, ?_, ?_, ?_, ?_⟩
  · rw [List.map_append, List.map_singleton, Region.range_replicate, List.pairwise_append]
    refine ⟨h.disjoint, List.pairwise_singleton _ _, ?_⟩
    intro range hrange other hother index hindex hin
    obtain ⟨found, hfound, rfl⟩ := List.mem_map.1 hrange
    rw [List.mem_singleton] at hother
    subst hother
    exact hadded index hin (h.mapped_of_contains hfound hindex)
  · intro index
    rw [← h.mapped_iff]
    simp only [List.mem_append, List.mem_singleton, or_and_right, exists_or, exists_eq_left,
      Region.range_replicate]
  · intro found hfound index hindex
    rcases List.mem_append.1 hfound with hfound | hfound
    · exact h.byte?_eq found hfound index hindex
    · rw [List.mem_singleton] at hfound
      subst hfound
      rw [Region.range_replicate] at hindex
      rw [Region.byte?_replicate hindex, h.byteAt_eq_zero index (hadded index hindex)]
  · intro found hfound
    rcases List.mem_append.1 hfound with hfound | hfound
    · exact h.stop_lt found hfound
    · rw [List.mem_singleton] at hfound
      subst hfound
      rw [Region.range_replicate]
      exact hbelow
  · intro index hindex
    exact h.byteAt_eq_zero index fun hin ↦ hindex (.inl hin)

theorem Represents.map (h : snapshot.Represents mapped byteAt)
    (hbelow : base.toNat + count < UInt64.size)
    (hadded : ∀ index, (AddressRange.mk base count).Contains index → ¬ mapped index) :
    (snapshot.map base count).Represents
      (fun index ↦ mapped index ∨ (AddressRange.mk base count).Contains index) byteAt := by
  rcases mapRegions_cases base count snapshot.regions with
    ⟨before, region, after, hregions, hstop, hmap⟩ | ⟨-, hmap⟩
  · have hbefore : Represents ⟨before ++ region :: after⟩ mapped byteAt := hregions ▸ h
    have hstop : region.range.stop = base.toNat := by
      rw [← hstop, Region.stop_toNat (hbefore.stop_lt region (by simp))]
    have hrange : ∀ index, (region.extend count).range.Contains index ↔
        region.range.Contains index ∨ (AddressRange.mk base count).Contains index := by
      intro index
      rw [Region.contains_extend, hstop]
      rfl
    rw [Snapshot.map, hmap]
    refine hbefore.replace hrange hadded (by rwa [Region.stop_range_extend, hstop]) ?_ fun _ _ ↦ rfl
    intro index hindex
    rcases Region.contains_extend.1 hindex with hin | ⟨hle, hlt⟩
    · rw [Region.byte?_extend_of_contains hin]
      exact hbefore.byte?_eq region (by simp) index hin
    · have hnew : (AddressRange.mk base count).Contains index := by
        rw [hstop] at hle hlt
        exact ⟨hle, hlt⟩
      rw [Region.byte?_extend_of_stop_le hle hlt, h.byteAt_eq_zero index (hadded index hnew)]
  · rw [Snapshot.map, hmap]
    exact h.add hbelow hadded

/-- A successful write replaces the bytes that it covers. -/
theorem Represents.write {result : Snapshot} (h : snapshot.Represents mapped byteAt)
    (hwrite : snapshot.write? address data = some result) :
    result.Represents mapped fun index ↦
      ((Step.write address data).byte? index).getD (byteAt index) := by
  obtain ⟨regions, hregions, rfl⟩ := Option.map_eq_some_iff.1 hwrite
  obtain ⟨before, region, after, hsplit, hholds, rfl⟩ := writeRegions?_eq_some hregions
  have hbefore : Represents ⟨before ++ region :: after⟩ mapped byteAt := hsplit ▸ h
  have hrange : ∀ index, (region.overwrite address data).range.Contains index ↔
      region.range.Contains index ∨ False := by
    intro index
    rw [Region.range_overwrite hholds, or_false]
  have hstop : (region.overwrite address data).range.stop < UInt64.size := by
    rw [Region.range_overwrite hholds]
    exact hbefore.stop_lt region (by simp)
  have hnew : ∀ index, (region.overwrite address data).range.Contains index →
      (region.overwrite address data).byte? index =
        some (((Step.write address data).byte? index).getD (byteAt index)) := by
    intro index hindex
    by_cases hin : (AddressRange.mk address data.length).Contains index
    · have hlt : index - address.toNat < data.length := Nat.sub_lt_left_of_lt_add hin.1 hin.2
      rw [Region.byte?_overwrite hholds, if_pos hin, Step.byte?_write_of_contains hin,
        List.getElem?_eq_getElem hlt, Option.getD_some]
    · rw [Region.byte?_overwrite hholds, if_neg hin,
        Step.byte?_write_of_not_contains hin, Option.getD_none]
      rw [Region.range_overwrite hholds] at hindex
      exact hbefore.byte?_eq region (by simp) index hindex
  have hold : ∀ index, ¬ region.range.Contains index →
      ((Step.write address data).byte? index).getD (byteAt index) = byteAt index := by
    intro index hindex
    have hout : ¬ (AddressRange.mk address data.length).Contains index :=
      fun hin ↦ hindex (hholds.contains hin)
    rw [Step.byte?_write_of_not_contains hout, Option.getD_none]
  have hresult := hbefore.replace hrange (fun _ hadded ↦ hadded.elim) hstop hnew hold
  simpa only [or_false] using hresult

/-! ## Reads -/

/-- The bytes of a range that one region covers. -/
theorem Represents.read_of_covers (h : snapshot.Represents mapped byteAt)
    (hregion : region ∈ snapshot.regions) (hcovers : region.Covers address count) :
    snapshot.memory.read address count =
      .ok ((List.range count).map fun offset ↦ byteAt (address.toNat + offset)) := by
  cases hfind : snapshot.regions.find? (·.Covers address count) with
  | none =>
    have hnone := List.find?_eq_none.1 hfind region hregion
    exact absurd (decide_eq_true hcovers) hnone
  | some found =>
    -- The first region that covers the range may be a different one, but the bytes agree.
    have hfound : found.Covers address count := by simpa using List.find?_some hfind
    have hslice : found.slice address count =
        (List.range count).map fun offset ↦ byteAt (address.toNat + offset) := by
      apply List.ext_getElem?
      intro offset
      by_cases hoffset : offset < count
      · have hcontains : found.range.Contains (address.toNat + offset) :=
          hfound.contains ⟨Nat.le_add_right _ _, Nat.add_lt_add_left hoffset _⟩
        rw [Region.getElem?_slice hfound hoffset,
          h.byte?_eq found (List.mem_of_find?_eq_some hfind) _ hcontains, List.getElem?_map,
          List.getElem?_range hoffset, Option.map_some]
      · rw [List.getElem?_eq_none (by rw [Region.length_slice hfound]; omega),
          List.getElem?_eq_none (by rw [List.length_map, List.length_range]; omega)]
    rw [Memory.read_eq_ok_iff, ← hslice]
    show Region.read? snapshot.regions address count = _
    rw [Region.read?, if_pos hcovers.lt_size, hfind, Option.map_some]

theorem read_of_not_covers (h : ∀ region ∈ snapshot.regions, ¬ region.Covers address count) :
    snapshot.memory.read address count = .error (.unreadable address count) := by
  have hfind : snapshot.regions.find? (·.Covers address count) = none := by
    apply List.find?_eq_none.2
    intro region hregion
    rw [decide_eq_true_eq]
    exact h region hregion
  refine Memory.read_eq_error_iff.2 ⟨?_, rfl⟩
  show Region.read? snapshot.regions address count = none
  rw [Region.read?, hfind, Option.map_none, ite_self]

end Snapshot

end MemoryInspector
