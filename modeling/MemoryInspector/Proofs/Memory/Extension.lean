import MemoryInspector.Proofs.Memory.Snapshot

/-!
# Memories that extend others

A memory that answers the reads of another one with the same bytes, and perhaps more reads. Mapping
extends a snapshot: what could be read before is read alike, since the first region that covers a
range stays the first one, whether another region is added at the end or grows.
-/

namespace MemoryInspector

namespace Memory

/-- Every read that succeeds in the memory succeeds in the other one with the same bytes. -/
def ExtendedBy (memory other : Memory) : Prop :=
  ∀ address count bytes, memory.bytes? address count = some bytes →
    other.bytes? address count = some bytes

theorem ExtendedBy.read_eq_ok {memory other : Memory} {address : UInt64} {count : Nat}
    {bytes : List UInt8} (h : memory.ExtendedBy other) (hread : memory.read address count = .ok bytes) :
    other.read address count = .ok bytes :=
  read_eq_ok_iff.2 (h address count bytes (read_eq_ok_iff.1 hread))

end Memory

namespace Region

variable {region other : Region} {address : UInt64} {count added : Nat}

section

variable (hbelow : region.stop.toNat + added < UInt64.size)
include hbelow

theorem covers_extend (h : region.Covers address count) :
    (region.extend added).Covers address count := by
  refine ⟨h.1, Nat.le_trans h.2 ?_⟩
  rw [stop_extend hbelow]
  exact Nat.le_add_right _ _

/-- Before its end, an extended region reads as before. -/
theorem slice_extend (h : region.Covers address count) :
    (region.extend added).slice address count = region.slice address count := by
  have hextended := covers_extend hbelow h
  apply List.ext_getElem?
  intro index
  by_cases hindex : index < count
  · have hcontains : region.range.Contains (address.toNat + index) :=
      h.contains ⟨Nat.le_add_right _ _, Nat.add_lt_add_left hindex _⟩
    rw [getElem?_slice hextended hindex, getElem?_slice h hindex, byte?_extend_of_contains hcontains]
  · rw [List.getElem?_eq_none (by rw [length_slice hextended]; omega),
      List.getElem?_eq_none (by rw [length_slice h]; omega)]

/-- A region that covers a range only once it is extended covers an added address of the range. -/
theorem exists_added_of_covers_extend (h : (region.extend added).Covers address count)
    (hnot : ¬ region.Covers address count) (hne : count ≠ 0) :
    ∃ index, (AddressRange.mk address count).Contains index ∧ region.stop.toNat ≤ index ∧
      index < region.stop.toNat + added := by
  obtain ⟨hbase, hstop⟩ := h
  rw [stop_extend hbelow] at hstop
  have hend : region.stop.toNat < address.toNat + count :=
    Nat.lt_of_not_le fun hle ↦ hnot ⟨hbase, hle⟩
  have hpos : 0 < count := Nat.pos_of_ne_zero hne
  refine ⟨address.toNat + count - 1, ⟨?_, ?_⟩, ?_, ?_⟩
  · show address.toNat ≤ address.toNat + count - 1
    omega
  · show address.toNat + count - 1 < address.toNat + count
    omega
  · omega
  · omega

end

/-- Empty ranges have no bytes. -/
theorem slice_zero (region : Region) (address : UInt64) : region.slice address 0 = [] := by
  rw [slice, Nat.add_zero, Array.extract_empty_of_stop_le_start (Nat.le_refl _)]

end Region

namespace Snapshot

open Region

variable {snapshot : Snapshot} {before after : List Region} {region found : Region}
  {base address : UInt64} {count added : Nat}

theorem find?_covers_cons (region : Region) (rest : List Region) (address : UInt64) (count : Nat) :
    (region :: rest).find? (·.Covers address count) =
      if region.Covers address count then some region else rest.find? (·.Covers address count) := by
  rw [List.find?_cons]
  split
  · next hcovers => rw [if_pos (of_decide_eq_true hcovers)]
  · next hcovers => rw [if_neg (of_decide_eq_false hcovers)]

/-- A region that grows stands in the way of no read, if no region has the added addresses. -/
theorem find?_extend (hbelow : region.stop.toNat + added < UInt64.size)
    (hdisjoint : ∀ other ∈ before ++ region :: after, ∀ index, region.stop.toNat ≤ index →
      index < region.stop.toNat + added → ¬ other.range.Contains index)
    (hfound : (before ++ region :: after).find? (·.Covers address count) = some found) :
    ∃ found', (before ++ region.extend added :: after).find? (·.Covers address count) = some found' ∧
      found'.slice address count = found.slice address count := by
  have hmem : found ∈ before ++ region :: after := List.mem_of_find?_eq_some hfound
  have hcovers : found.Covers address count := by simpa using List.find?_some hfound
  rw [List.find?_append] at hfound ⊢
  cases hbefore : before.find? (·.Covers address count) with
  | some first =>
    rw [hbefore] at hfound
    exact ⟨found, hfound, rfl⟩
  | none =>
    rw [hbefore, Option.none_or] at hfound
    rw [Option.none_or]
    rw [find?_covers_cons] at hfound ⊢
    by_cases hregion : region.Covers address count
    · rw [if_pos hregion] at hfound
      cases hfound
      rw [if_pos (covers_extend hbelow hregion)]
      exact ⟨region.extend added, rfl, slice_extend hbelow hregion⟩
    · rw [if_neg hregion] at hfound
      by_cases hextended : (region.extend added).Covers address count
      · rw [if_pos hextended]
        refine ⟨region.extend added, rfl, ?_⟩
        by_cases hempty : count = 0
        · rw [hempty, slice_zero, slice_zero]
        · obtain ⟨index, hindex, hle, hlt⟩ := exists_added_of_covers_extend hbelow hextended hregion hempty
          exact absurd (hcovers.contains hindex) (hdisjoint found hmem index hle hlt)
      · rw [if_neg hextended]
        exact ⟨found, hfound, rfl⟩

/-- What can be read of a snapshot is read alike after one more range is mapped below 2 ^ 64. -/
theorem extendedBy_map (hbelow : base.toNat + count < UInt64.size) (hdisjoint : ∀ region ∈ snapshot.regions,
    (AddressRange.mk base count).Disjoint region.range) :
    snapshot.memory.ExtendedBy (snapshot.map base count).memory := by
  intro address size bytes hread
  have hbytes : read? snapshot.regions address size = some bytes := hread
  show read? (mapRegions base count snapshot.regions) address size = some bytes
  unfold read? at hbytes ⊢
  split at hbytes
  · next hlt =>
    obtain ⟨found, hfound, rfl⟩ := Option.map_eq_some_iff.1 hbytes
    rw [if_pos hlt, Option.map_eq_some_iff]
    rcases mapRegions_cases base count snapshot.regions with
      ⟨before, region, after, hregions, hstop, hmap⟩ | ⟨-, hmap⟩
    · rw [hmap]
      rw [hregions] at hfound hdisjoint
      refine find?_extend (hstop ▸ hbelow) ?_ hfound
      intro other hother index hle hlt
      rw [hstop] at hle hlt
      exact hdisjoint other hother index ⟨hle, hlt⟩
    · refine ⟨found, ?_, rfl⟩
      rw [hmap, List.find?_append, hfound, Option.some_or]
  · cases hbytes

end Snapshot

end MemoryInspector
