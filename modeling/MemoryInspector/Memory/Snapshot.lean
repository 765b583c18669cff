import MemoryInspector.Memory
import MemoryInspector.Text.Numeral

/-!
# Snapshots

Memory images assembled from regions. A region that is mapped where another one ends becomes part
of it, and a read has to lie inside one region.
-/

namespace MemoryInspector

open Text

structure Region where
  base : UInt64
  bytes : Array UInt8
deriving DecidableEq

namespace Region

/-- One past the last address, in the arithmetic of addresses: the end of a region that reaches
2 ^ 64 wraps around. -/
def stop (region : Region) : UInt64 := region.base + UInt64.ofNat region.bytes.size

theorem stop_toNat_le (region : Region) :
    region.stop.toNat ≤ region.base.toNat + region.bytes.size := by
  rw [stop, UInt64.toNat_add, UInt64.toNat_ofNat', Nat.add_mod_mod]
  exact Nat.mod_le _ _

def Covers (region : Region) (address : UInt64) (count : Nat) : Prop :=
  region.base ≤ address ∧ address.toNat + count ≤ region.stop.toNat

instance (region : Region) (address : UInt64) (count : Nat) :
    Decidable (region.Covers address count) :=
  inferInstanceAs (Decidable (_ ∧ _))

/-- Position of an address among the bytes. -/
def offset (region : Region) (address : UInt64) : Nat := address.toNat - region.base.toNat

def slice (region : Region) (address : UInt64) (count : Nat) : List UInt8 :=
  (region.bytes.extract (region.offset address) (region.offset address + count)).toList

/-- The region with the bytes from the address on replaced. -/
def overwrite (region : Region) (address : UInt64) (data : List UInt8) : Region :=
  let start := region.offset address
  { region with
    bytes := region.bytes.extract 0 start ++ data.toArray ++
      region.bytes.extract (start + data.length) region.bytes.size }

def extend (region : Region) (count : Nat) : Region :=
  { region with bytes := region.bytes ++ Array.replicate count 0 }

theorem length_slice {region : Region} {address : UInt64} {count : Nat}
    (h : region.Covers address count) : (region.slice address count).length = count := by
  obtain ⟨hbase, hstop⟩ := h
  have hle : region.base.toNat ≤ address.toNat := hbase
  have hend := region.stop_toNat_le
  simp only [slice, offset, Array.length_toList, Array.size_extract]
  omega

end Region

/-- A read of a list of regions: the range ends below 2 ^ 64 and the first region that covers it
gives the bytes. -/
def Region.read? (regions : List Region) (address : UInt64) (count : Nat) : Option (List UInt8) :=
  if address.toNat + count < UInt64.size then
    (regions.find? (·.Covers address count)).map (·.slice address count)
  else none

theorem Region.length_read? {regions : List Region} {address : UInt64} {count : Nat}
    {found : List UInt8} (h : Region.read? regions address count = some found) :
    found.length = count := by
  unfold Region.read? at h
  split at h
  · obtain ⟨region, hr, rfl⟩ := Option.map_eq_some_iff.1 h
    exact Region.length_slice (by simpa using List.find?_some hr)
  · simp at h

structure Snapshot where
  /-- In the order in which they were mapped. -/
  regions : List Region
deriving DecidableEq

namespace Snapshot

def empty : Snapshot := ⟨[]⟩

/-- Extend the first region that ends at the base, or else add one, with zero bytes. -/
def mapRegions (base : UInt64) (count : Nat) : List Region → List Region
  | [] => [⟨base, Array.replicate count 0⟩]
  | region :: rest =>
    if region.stop = base then region.extend count :: rest
    else region :: mapRegions base count rest

def map (snapshot : Snapshot) (base : UInt64) (count : Nat) : Snapshot :=
  ⟨mapRegions base count snapshot.regions⟩

/-- Overwrite bytes in the first region that the range seems to lie in. The end of the range wraps
around as that of a region does, so this region may still have no place for all of the bytes. -/
def writeRegions? (address : UInt64) (data : List UInt8) : List Region → Option (List Region)
  | [] => none
  | region :: rest =>
    if region.base ≤ address ∧ address + UInt64.ofNat data.length ≤ region.stop then
      if region.offset address + data.length ≤ region.bytes.size then
        some (region.overwrite address data :: rest)
      else none
    else (writeRegions? address data rest).map (region :: ·)

/-- Overwrite mapped bytes; nothing can be written where no region has all of the range. -/
def write? (snapshot : Snapshot) (address : UInt64) (data : List UInt8) : Option Snapshot :=
  (writeRegions? address data snapshot.regions).map Snapshot.mk

/-- A raw dump whose first byte lies at the base. -/
def ofBytes (base : UInt64) (bytes : Array UInt8) : Snapshot := ⟨[⟨base, bytes⟩]⟩

def description (snapshot : Snapshot) : String :=
  s!"snapshot with {decimal snapshot.regions.length} region(s)"

def memory (snapshot : Snapshot) : Memory where
  bytes? := Region.read? snapshot.regions
  length_bytes? := Region.length_read?
  description := snapshot.description

end Snapshot

end MemoryInspector
