import Mathlib.Data.List.Find
import MemoryInspector.Memory.CoreDump
import MemoryInspector.Proofs.Memory.Region

/-!
# Core dumps as regions

A segment whose part of the file is complete stands for a region: the bytes of the file, followed
by zeros up to the size in memory. A core dump is read like the list of these regions, whatever
their order is and wherever they overlap. Where the file ends too early, the reads that need one of
the missing bytes fail.
-/

namespace MemoryInspector

namespace LoadSegment

variable {segment : LoadSegment} {contents : ByteArray} {address : UInt64} {count : Nat}

/-- The segment is as large as its part of the file at least, and neither of them reaches
2 ^ 64. -/
structure WellFormed (segment : LoadSegment) : Prop where
  fileSize_le : segment.fileSize ≤ segment.size
  stop_lt : segment.base.toNat + segment.size.toNat < UInt64.size
  fileStop_lt : segment.fileOffset.toNat + segment.fileSize.toNat < UInt64.size

instance (segment : LoadSegment) : Decidable segment.WellFormed :=
  decidable_of_iff (segment.fileSize ≤ segment.size ∧
      segment.base.toNat + segment.size.toNat < UInt64.size ∧
      segment.fileOffset.toNat + segment.fileSize.toNat < UInt64.size)
    ⟨fun ⟨hsize, hstop, hfile⟩ ↦ ⟨hsize, hstop, hfile⟩,
      fun h ↦ ⟨h.fileSize_le, h.stop_lt, h.fileStop_lt⟩⟩

/-- The file holds all of the segment's part. -/
def IsStored (segment : LoadSegment) (contents : ByteArray) : Prop :=
  segment.fileOffset.toNat + segment.fileSize.toNat ≤ contents.size

instance (segment : LoadSegment) (contents : ByteArray) : Decidable (segment.IsStored contents) :=
  inferInstanceAs (Decidable (_ ≤ _))

/-- The bytes of the segment's part of the file, then zeros. -/
def region (segment : LoadSegment) (contents : ByteArray) : Region where
  base := segment.base
  bytes :=
    contents.data.extract segment.fileOffset.toNat
        (segment.fileOffset.toNat + segment.fileSize.toNat) ++
      Array.replicate (segment.size.toNat - segment.fileSize.toNat) 0

/-- Where the file has the byte at an address, for the addresses of the segment's part. -/
def filePosition? (segment : LoadSegment) (index : Nat) : Option Nat :=
  if index < segment.base.toNat + segment.fileSize.toNat then
    some (segment.fileOffset.toNat + (index - segment.base.toNat))
  else none

/-- Some byte of the range should be in the file, but lies behind its end. -/
def Misses (segment : LoadSegment) (contents : ByteArray) (address : UInt64) (count : Nat) : Prop :=
  ∃ index, (AddressRange.mk address count).Contains index ∧
    ∃ position, segment.filePosition? index = some position ∧ contents.size ≤ position

theorem fileSize_toNat_le (h : segment.WellFormed) :
    segment.fileSize.toNat ≤ segment.size.toNat := h.fileSize_le

theorem size_region_file (hstored : segment.IsStored contents) :
    (contents.data.extract segment.fileOffset.toNat
      (segment.fileOffset.toNat + segment.fileSize.toNat)).size = segment.fileSize.toNat := by
  have hsize : contents.data.size = contents.size := ByteArray.size_data
  unfold IsStored at hstored
  rw [Array.size_extract]
  omega

theorem stop_region (h : segment.WellFormed) (hstored : segment.IsStored contents) :
    (segment.region contents).range.stop = segment.base.toNat + segment.size.toNat := by
  have hle := fileSize_toNat_le h
  calc
    (segment.region contents).range.stop = segment.base.toNat +
        (segment.fileSize.toNat + (segment.size.toNat - segment.fileSize.toNat)) := by
      rw [Region.stop_range, region]
      rw [Array.size_append, size_region_file hstored, Array.size_replicate]
    _ = segment.base.toNat + segment.size.toNat := by rw [Nat.add_sub_cancel' hle]

/-- The end of a well-formed segment need not be cut off. -/
theorem covers_iff (h : segment.WellFormed) (hstored : segment.IsStored contents) :
    segment.Covers address count ↔ (segment.region contents).Covers address count := by
  have hstop := h.stop_lt
  have hbelow : (segment.region contents).range.stop < UInt64.size := by
    rwa [stop_region h hstored]
  rw [Region.covers_iff_holds hbelow, Covers, Region.Holds, stop_region h hstored,
    Nat.min_eq_left (by omega)]
  rfl

theorem slice?_eq_slice (h : segment.WellFormed) (hstored : segment.IsStored contents)
    (hcovers : segment.Covers address count) :
    segment.slice? contents address count = some ((segment.region contents).slice address count) := by
  have hbase : segment.base.toNat ≤ address.toNat := hcovers.1
  have hend : address.toNat + count ≤ segment.base.toNat + segment.size.toNat :=
    Nat.le_trans hcovers.2 (Nat.min_le_left _ _)
  have hle := fileSize_toNat_le h
  have hsize := size_region_file hstored
  unfold IsStored at hstored
  unfold slice? Region.slice Region.offset
  dsimp only [region]
  -- The range has a part in the file and a part of zeros, either of which may be empty.
  have hzeros : Array.replicate
      (min (address.toNat - segment.base.toNat + count - segment.fileSize.toNat)
        (segment.size.toNat - segment.fileSize.toNat) -
          (address.toNat - segment.base.toNat - segment.fileSize.toNat)) (0 : UInt8) =
      Array.replicate (count - min (segment.fileSize.toNat - (address.toNat - segment.base.toNat))
        count) 0 := by
    congr 1
    omega
  rw [Array.extract_append, hsize, Array.extract_replicate, hzeros, Array.extract_extract,
    Array.toList_append, Array.toList_replicate]
  split
  · next hnone =>
    rw [hnone, Array.extract_eq_empty_of_le (by omega), Nat.sub_zero]
    rfl
  · next hsome =>
    rw [if_pos (by omega), ByteArray.data_extract]
    congr 4
    omega

/-- A range that the segment covers can be read unless the file misses one of its bytes. -/
theorem slice?_eq_none_iff (hcovers : segment.Covers address count) :
    segment.slice? contents address count = none ↔ segment.Misses contents address count := by
  have hbase : segment.base.toNat ≤ address.toNat := hcovers.1
  unfold slice? Misses filePosition?
  simp only [AddressRange.contains_mk]
  constructor
  · intro hnone
    split at hnone
    · cases hnone
    · split at hnone
      · cases hnone
      · -- The last byte that the file should hold is missing.
        refine ⟨address.toNat + min (segment.fileSize.toNat - (address.toNat - segment.base.toNat))
          count - 1, by omega, _, if_pos (by omega), by omega⟩
  · intro hmisses
    obtain ⟨index, ⟨hlow, hhigh⟩, position, hposition, hsize⟩ := hmisses
    split at hposition
    · next hstored =>
      cases hposition
      rw [if_neg (by omega), if_neg (by omega)]
    · cases hposition

end LoadSegment

namespace CoreDump

variable {core : CoreDump} {address : UInt64} {count : Nat}

theorem bytes?_eq_read? (hsegments : ∀ segment ∈ core.segments, segment.WellFormed)
    (hstored : ∀ segment ∈ core.segments, segment.IsStored core.contents) :
    core.bytes? address count =
      Region.read? (core.segments.map (·.region core.contents)) address count := by
  have hfind : core.segments.find? (·.Covers address count) =
      core.segments.find? fun segment ↦ (segment.region core.contents).Covers address count := by
    apply List.find?_congr
    intro segment hsegment
    exact decide_eq_decide.2
      (LoadSegment.covers_iff (hsegments segment hsegment) (hstored segment hsegment))
  unfold bytes? Region.read?
  split
  · rw [List.find?_map]
    unfold Function.comp
    rw [← hfind]
    cases hfound : core.segments.find? (·.Covers address count) with
    | none => rfl
    | some segment =>
      have hsegment := List.mem_of_find?_eq_some hfound
      have hcovers : segment.Covers address count := by simpa using List.find?_some hfound
      exact LoadSegment.slice?_eq_slice (hsegments segment hsegment) (hstored segment hsegment)
        hcovers
  · rfl

theorem bytes?_of_find? {segment : LoadSegment}
    (hfound : core.segments.find? (·.Covers address count) = some segment) :
    core.bytes? address count = segment.slice? core.contents address count := by
  have hcovers : segment.Covers address count := by simpa using List.find?_some hfound
  have hbelow : address.toNat + count ≤ UInt64.size - 1 :=
    Nat.le_trans hcovers.2 (Nat.min_le_right _ _)
  have hpos : 0 < UInt64.size := by decide
  unfold bytes?
  rw [if_pos (by omega), hfound, Option.bind_some]

/-- A core dump whose segments are complete in the file is read like the regions of the segments
in their order. In any other one, a range that some segment covers cannot be read exactly where
the first such segment misses one of its bytes. -/
theorem read_eq_read_regions (core : CoreDump)
    (hsegments : ∀ segment ∈ core.segments, segment.WellFormed) (address : UInt64) (count : Nat) :
    ((∀ segment ∈ core.segments, segment.IsStored core.contents) →
      core.memory.read address count =
        (Snapshot.mk (core.segments.map (·.region core.contents))).memory.read address count) ∧
    ∀ segment, core.segments.find? (·.Covers address count) = some segment →
      (core.memory.read address count = .error (.unreadable address count) ↔
        segment.Misses core.contents address count) := by
  constructor
  · intro hstored
    have hbytes : core.memory.bytes? address count =
        (Snapshot.mk (core.segments.map (·.region core.contents))).memory.bytes? address count :=
      bytes?_eq_read? hsegments hstored
    unfold Memory.read
    rw [hbytes]
  · intro segment hfound
    have hcovers : segment.Covers address count := by simpa using List.find?_some hfound
    rw [← LoadSegment.slice?_eq_none_iff hcovers, ← bytes?_of_find? hfound,
      Memory.read_eq_error_iff]
    exact and_iff_left rfl

/-- Two segments that overlap, the second one with zeros behind its two bytes in the file. -/
def overlappingSegments : List LoadSegment := [⟨0x1000, 1, 3, 3⟩, ⟨0x1002, 4, 2, 6⟩]

/-- The segments over a file that holds both of their parts. -/
def completeCore : CoreDump :=
  ⟨"core", ⟨#[0, 1, 2, 3, 4, 5]⟩, overlappingSegments⟩

/-- The same segments over a file that lacks the last byte. -/
def truncatedCore : CoreDump :=
  ⟨"core", ⟨#[0, 1, 2, 3, 4]⟩, overlappingSegments⟩

theorem read_eq_read_regions_overlapping :
    (∀ segment ∈ overlappingSegments, segment.WellFormed) ∧
    (∀ segment ∈ overlappingSegments, segment.IsStored completeCore.contents) ∧
    completeCore.memory.read 0x1002 4 = .ok [4, 5, 0, 0] ∧
    truncatedCore.memory.read 0x1002 4 = .error (.unreadable 0x1002 4) := by
  have hsegments : ∀ segment ∈ overlappingSegments, segment.WellFormed := by decide
  have hstored : ∀ segment ∈ overlappingSegments, segment.IsStored completeCore.contents := by
    decide
  refine ⟨hsegments, hstored, ?_, ?_⟩
  · exact ((read_eq_read_regions completeCore hsegments 0x1002 4).1 hstored).trans
      (Memory.read_eq_ok_iff.2 (by decide))
  · apply ((read_eq_read_regions truncatedCore hsegments 0x1002 4).2 ⟨0x1002, 4, 2, 6⟩ (by decide)).2
    exact ⟨0x1003, by decide, 5, by decide, by decide⟩

end CoreDump

end MemoryInspector
