import MemoryInspector.Proofs.Memory.Contents
import MemoryInspector.Proofs.Memory.Run

/-!
# Images written to a snapshot

Chunks of bytes at disjoint addresses are mapped and written one after another. The snapshot then
holds each of them, since neither regions that merge nor the writes of other chunks disturb it.
-/

namespace MemoryInspector

namespace Snapshot

/-- Some region covers the range. -/
def Covered (snapshot : Snapshot) (address : UInt64) (count : Nat) : Prop :=
  ∃ region ∈ snapshot.regions, region.Covers address count

variable {snapshot : Snapshot} {address base : UInt64} {count : Nat}

theorem covered_replace {before after : List Region} {region new : Region}
    (h : Covered ⟨before ++ region :: after⟩ address count)
    (hnew : region.Covers address count → new.Covers address count) :
    Covered ⟨before ++ new :: after⟩ address count := by
  obtain ⟨found, hfound, hcovers⟩ := h
  rcases List.mem_cons.1 (List.perm_middle.mem_iff.1 hfound) with rfl | hfound
  · exact ⟨new, by simp, hnew hcovers⟩
  · refine ⟨found, ?_, hcovers⟩
    exact List.perm_middle.mem_iff.2 (List.mem_cons_of_mem _ hfound)

theorem Covered.map {length : Nat} (h : snapshot.Covered address count)
    (hbelow : base.toNat + length < UInt64.size) : (snapshot.map base length).Covered address count := by
  rcases mapRegions_cases base length snapshot.regions with
    ⟨before, region, after, hregions, hstop, hmap⟩ | ⟨-, hmap⟩
  · have hbefore : Covered ⟨before ++ region :: after⟩ address count := hregions ▸ h
    rw [← hstop] at hbelow
    rw [Snapshot.map, hmap]
    apply covered_replace hbefore
    intro hcovers
    refine ⟨hcovers.1, ?_⟩
    calc
      address.toNat + count ≤ region.stop.toNat := hcovers.2
      _ ≤ region.stop.toNat + length := Nat.le_add_right _ _
      _ = (region.extend length).stop.toNat := (Region.stop_extend hbelow).symm
  · obtain ⟨region, hregion, hcovers⟩ := h
    rw [Snapshot.map, hmap]
    exact ⟨region, List.mem_append_left _ hregion, hcovers⟩

/-- What is mapped lies in one region. -/
theorem covered_map (hregions : ∀ region ∈ snapshot.regions, region.range.stop < UInt64.size)
    (hbelow : base.toNat + count < UInt64.size) : (snapshot.map base count).Covered base count := by
  rcases mapRegions_cases base count snapshot.regions with
    ⟨before, region, after, hsplit, hstop, hmap⟩ | ⟨-, hmap⟩
  · have hle : region.base.toNat ≤ base.toNat := by
      rw [← hstop, Region.stop_toNat (hregions region (by simp [hsplit]))]
      exact Nat.le_add_right _ _
    rw [← hstop] at hbelow
    have hend : (region.extend count).stop.toNat = base.toNat + count := by
      rw [Region.stop_extend hbelow, hstop]
    rw [Snapshot.map, hmap]
    exact ⟨region.extend count, by simp, hle, Nat.le_of_eq hend.symm⟩
  · have hnew : (Region.mk base (Array.replicate count 0)).range.stop < UInt64.size := by
      rwa [Region.range_replicate]
    rw [Snapshot.map, hmap]
    refine ⟨_, List.mem_append_right _ List.mem_cons_self, (Region.covers_iff_holds hnew).2 ?_⟩
    rw [Region.Holds, Region.range_replicate]
    exact ⟨UInt64.le_refl _, Nat.le_refl _⟩

theorem Covered.write {data : List UInt8} {result : Snapshot} (h : snapshot.Covered address count)
    (hwrite : snapshot.write? base data = some result) : result.Covered address count := by
  obtain ⟨regions, hregions, rfl⟩ := Option.map_eq_some_iff.1 hwrite
  obtain ⟨before, region, after, hsplit, hholds, rfl⟩ := writeRegions?_eq_some hregions
  have hbefore : Covered ⟨before ++ region :: after⟩ address count := hsplit ▸ h
  apply covered_replace hbefore
  intro hin
  refine ⟨hin.1, ?_⟩
  rw [Region.stop, Region.size_overwrite hholds]
  exact hin.2

/-- All of a range in one region is held with the bytes at its addresses. -/
theorem Represents.holds {mapped : Nat → Prop} {byteAt : Nat → UInt8} {bytes : List UInt8}
    (h : snapshot.Represents mapped byteAt) (hcovered : snapshot.Covered address bytes.length)
    (hbytes : ∀ offset (hoffset : offset < bytes.length),
      byteAt (address.toNat + offset) = bytes[offset]) :
    snapshot.memory.Holds address bytes := by
  obtain ⟨region, hregion, hcovers⟩ := hcovered
  have hbelow := hcovers.lt_size
  refine ⟨hbelow, ?_⟩
  intro offset count hcount hle
  have haddress : (address + UInt64.ofNat offset).toNat = address.toNat + offset :=
    toNat_add_ofNat (by omega)
  have hpart : region.Covers (address + UInt64.ofNat offset) count := by
    constructor
    · rw [UInt64.le_iff_toNat_le, haddress]
      calc
        region.base.toNat ≤ address.toNat := hcovers.1
        _ ≤ address.toNat + offset := Nat.le_add_right _ _
    · rw [haddress]
      calc
        address.toNat + offset + count ≤ address.toNat + bytes.length := by omega
        _ ≤ region.stop.toNat := hcovers.2
  have hread := Memory.read_eq_ok_iff.1 (h.read_of_covers hregion hpart)
  rw [hread]
  congr 1
  apply List.ext_getElem
  · rw [List.length_map, List.length_range, List.length_take, List.length_drop]
    omega
  · intro index hmap htake
    rw [List.getElem_map, List.getElem_range, List.getElem_take, List.getElem_drop, haddress,
      Nat.add_assoc]
    exact hbytes _ _

end Snapshot

/-! ## Chunks -/

/-- Bytes to be placed at an address. -/
structure Chunk where
  address : UInt64
  bytes : List UInt8
deriving DecidableEq, Repr

namespace Chunk

def range (chunk : Chunk) : AddressRange := ⟨chunk.address, chunk.bytes.length⟩

/-- Map the range of the chunk and write its bytes. -/
def steps (chunk : Chunk) : List Snapshot.Step :=
  [.map chunk.address chunk.bytes.length, .write chunk.address chunk.bytes]

/-- The chunks have disjoint ranges that end below 2 ^ 64. -/
structure Apart (chunks : List Chunk) : Prop where
  disjoint : (chunks.map range).Pairwise AddressRange.Disjoint
  below : ∀ chunk ∈ chunks, chunk.address.toNat + chunk.bytes.length < UInt64.size

/-- Chunks are apart if each ends where the next ones have not begun. -/
theorem apart_of_le {chunks : List Chunk}
    (h : (chunks.map range).Pairwise fun range other ↦
      range.base.toNat + range.count ≤ other.base.toNat)
    (hbelow : ∀ chunk ∈ chunks, chunk.address.toNat + chunk.bytes.length < UInt64.size) :
    Apart chunks :=
  ⟨h.imp AddressRange.disjoint_of_le, hbelow⟩

open Snapshot

/-- The snapshot that holds the chunks. -/
def image (chunks : List Chunk) : Snapshot := run (chunks.flatMap steps)

variable {chunks : List Chunk} {chunk : Chunk}

theorem mappedRanges_steps (chunks : List Chunk) :
    mappedRanges (chunks.flatMap steps) = chunks.map range := by
  induction chunks with
  | nil => rfl
  | cons chunk rest ih =>
    rw [List.flatMap_cons, mappedRanges, List.filterMap_append, ← mappedRanges, ← mappedRanges, ih]
    rfl

theorem Apart.wellPlaced (h : Apart chunks) : WellPlaced (chunks.flatMap steps) := by
  constructor
  · rw [mappedRanges_steps]
    exact h.disjoint
  · intro range hrange
    rw [mappedRanges_steps] at hrange
    obtain ⟨chunk, hchunk, rfl⟩ := List.mem_map.1 hrange
    exact h.below chunk hchunk

theorem Apart.of_append {last : Chunk} (h : Apart (chunks ++ [last])) :
    Apart chunks ∧ ∀ chunk ∈ chunks, chunk.range.Disjoint last.range := by
  obtain ⟨hdisjoint, hbelow⟩ := h
  rw [List.map_append, List.map_singleton, List.pairwise_append] at hdisjoint
  refine ⟨⟨hdisjoint.1, fun chunk hchunk ↦ hbelow chunk (List.mem_append_left _ hchunk)⟩, ?_⟩
  intro chunk hchunk
  exact hdisjoint.2.2 _ (List.mem_map_of_mem hchunk) _ List.mem_cons_self

/-- One more chunk is mapped and then written, and its write succeeds. -/
theorem Apart.image_append {last : Chunk} (h : Apart (chunks ++ [last])) :
    ((image chunks).map last.address last.bytes.length).write? last.address last.bytes =
      some (image (chunks ++ [last])) ∧
    lastByte ((chunks ++ [last]).flatMap steps) = fun index ↦
      ((Step.write last.address last.bytes).byte? index).getD
        (lastByte (chunks.flatMap steps) index) := by
  have hsteps : (chunks ++ [last]).flatMap steps =
      (chunks.flatMap steps ++ [.map last.address last.bytes.length]) ++
        [.write last.address last.bytes] := by
    rw [List.flatMap_append, List.append_assoc]
    rfl
  have hmap : run (chunks.flatMap steps ++ [.map last.address last.bytes.length]) =
      (image chunks).map last.address last.bytes.length := run_append _ _
  have hplaced := h.wellPlaced
  rw [hsteps] at hplaced
  have hmapped := represents_run hplaced.of_append
  rw [hmap] at hmapped
  obtain ⟨region, hregion, hcovers⟩ :=
    covered_map (represents_run h.of_append.1.wellPlaced).stop_lt (h.below last (by simp))
  cases hwrite : ((image chunks).map last.address last.bytes.length).write? last.address last.bytes with
  | none => exact absurd hcovers ((write?_eq_none_iff hmapped.stop_lt).1 hwrite region hregion)
  | some result =>
    have happly : (Step.write last.address last.bytes).result?
        (run (chunks.flatMap steps ++ [.map last.address last.bytes.length])) = some result := by
      rw [hmap]
      exact hwrite
    have hbefore : lastByte (chunks.flatMap steps ++ [.map last.address last.bytes.length]) =
        lastByte (chunks.flatMap steps) := lastByte_append_of_eq_some rfl
    constructor
    · rw [image, hsteps, run_append, Step.apply, happly, Option.getD_some]
    · rw [hsteps, lastByte_append_of_eq_some happly, hbefore]

/-- Every chunk keeps its place and its bytes while later ones are added. -/
theorem Apart.placed (h : Apart chunks) (hchunk : chunk ∈ chunks) :
    (image chunks).Covered chunk.address chunk.bytes.length ∧
    ∀ offset (hoffset : offset < chunk.bytes.length),
      lastByte (chunks.flatMap steps) (chunk.address.toNat + offset) = chunk.bytes[offset] := by
  induction chunks using List.reverseRecOn with
  | nil => cases hchunk
  | append_singleton chunks last ih =>
    obtain ⟨hwrite, hbyte⟩ := h.image_append
    obtain ⟨hapart, hlast⟩ := h.of_append
    have hbelow := h.below last (by simp)
    rw [hbyte]
    beta_reduce
    rcases List.mem_append.1 hchunk with hold | hnew
    · obtain ⟨hcovered, hbytes⟩ := ih hapart hold
      refine ⟨(hcovered.map hbelow).write hwrite, ?_⟩
      intro offset hoffset
      have hin : chunk.range.Contains (chunk.address.toNat + offset) :=
        ⟨Nat.le_add_right _ _, Nat.add_lt_add_left hoffset _⟩
      rw [Step.byte?_write_of_not_contains (hlast chunk hold _ hin), Option.getD_none,
        hbytes offset hoffset]
    · rw [List.mem_singleton] at hnew
      subst hnew
      have hregions := (represents_run hapart.wellPlaced).stop_lt
      refine ⟨(covered_map hregions hbelow).write hwrite, ?_⟩
      intro offset hoffset
      have hin : chunk.range.Contains (chunk.address.toNat + offset) :=
        ⟨Nat.le_add_right _ _, Nat.add_lt_add_left hoffset _⟩
      rw [Step.byte?_write_of_contains hin, Nat.add_sub_cancel_left, List.getElem?_eq_getElem hoffset,
        Option.getD_some]

/-- The image of chunks that are apart holds each of them. -/
theorem Apart.holds (h : Apart chunks) (hchunk : chunk ∈ chunks) :
    (image chunks).memory.Holds chunk.address chunk.bytes := by
  obtain ⟨hcovered, hbytes⟩ := h.placed hchunk
  exact (represents_run h.wellPlaced).holds hcovered hbytes

end Chunk

end MemoryInspector
