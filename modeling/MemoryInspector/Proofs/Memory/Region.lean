import MemoryInspector.Memory.Snapshot

/-!
# The bytes of a region

A region is seen as a partial function from addresses to bytes. Extending a region adds zero bytes
behind it, overwriting replaces the bytes at the written addresses, and a slice of a region lists
its bytes at consecutive addresses.
-/

namespace MemoryInspector

/-- An address plus an offset that does not reach 2 ^ 64. -/
theorem toNat_add_ofNat {address : UInt64} {offset : Nat}
    (h : address.toNat + offset < UInt64.size) :
    (address + UInt64.ofNat offset).toNat = address.toNat + offset := by
  have hoffset : offset < UInt64.size := Nat.lt_of_le_of_lt (Nat.le_add_left _ _) h
  rw [UInt64.toNat_add, UInt64.toNat_ofNat_of_lt' hoffset, Nat.mod_eq_of_lt h]

/-- Consecutive addresses from a base on. -/
structure AddressRange where
  base : UInt64
  count : Nat
deriving DecidableEq, Repr

namespace AddressRange

/-- One past the last address. -/
def stop (range : AddressRange) : Nat := range.base.toNat + range.count

def Contains (range : AddressRange) (address : Nat) : Prop :=
  range.base.toNat ≤ address ∧ address < range.base.toNat + range.count

instance (range : AddressRange) (address : Nat) : Decidable (range.Contains address) :=
  inferInstanceAs (Decidable (_ ∧ _))

theorem contains_mk {base : UInt64} {count address : Nat} :
    (mk base count).Contains address ↔ base.toNat ≤ address ∧ address < base.toNat + count :=
  Iff.rfl

/-- No address lies in both ranges. -/
def Disjoint (range other : AddressRange) : Prop :=
  ∀ address, range.Contains address → ¬ other.Contains address

theorem Disjoint.symm {range other : AddressRange} (h : range.Disjoint other) :
    other.Disjoint range := by
  intro address hother hrange
  exact h address hrange hother

theorem disjoint_of_le {range other : AddressRange}
    (h : range.base.toNat + range.count ≤ other.base.toNat) : range.Disjoint other := by
  intro address hrange hother
  have hlt : address < other.base.toNat := Nat.lt_of_lt_of_le hrange.2 h
  exact Nat.not_le_of_lt hlt hother.1

end AddressRange

namespace Region

variable {region : Region} {address : UInt64} {count index : Nat} {data : List UInt8}

/-- The addresses of the region. -/
def range (region : Region) : AddressRange := ⟨region.base, region.bytes.size⟩

/-- The byte at an address of the region. -/
def byte? (region : Region) (address : Nat) : Option UInt8 :=
  if region.base.toNat ≤ address then region.bytes[address - region.base.toNat]? else none

theorem stop_range (region : Region) :
    region.range.stop = region.base.toNat + region.bytes.size := rfl

/-- The range of addresses lies among those of the region. -/
def Holds (region : Region) (address : UInt64) (count : Nat) : Prop :=
  region.base ≤ address ∧ address.toNat + count ≤ region.range.stop

theorem Holds.contains (h : region.Holds address count)
    (hindex : (AddressRange.mk address count).Contains index) : region.range.Contains index := by
  constructor
  · calc
      region.base.toNat ≤ address.toNat := h.1
      _ ≤ index := hindex.1
  · calc
      index < address.toNat + count := hindex.2
      _ ≤ region.range.stop := h.2

/-- There is a place among the bytes for each of the addresses. -/
theorem fits_iff (hbase : region.base ≤ address) :
    region.offset address + count ≤ region.bytes.size ↔ region.Holds address count := by
  have hle : region.base.toNat ≤ address.toNat := hbase
  rw [Holds, offset, stop_range, and_iff_right hbase]
  omega

theorem Covers.holds (h : region.Covers address count) : region.Holds address count :=
  ⟨h.1, Nat.le_trans h.2 region.stop_toNat_le⟩

theorem Covers.contains (h : region.Covers address count)
    (hindex : (AddressRange.mk address count).Contains index) : region.range.Contains index :=
  h.holds.contains hindex

/-- No covered range reaches 2 ^ 64. -/
theorem Covers.lt_size (h : region.Covers address count) : address.toNat + count < UInt64.size :=
  Nat.lt_of_le_of_lt h.2 (UInt64.toNat_lt _)

/-! ## Ends below 2 ^ 64 -/

theorem le_stop_iff (h : address.toNat + count < UInt64.size) :
    address + UInt64.ofNat count ≤ region.stop ↔ address.toNat + count ≤ region.stop.toNat := by
  rw [UInt64.le_iff_toNat_le, toNat_add_ofNat h]

/-- The end of a region that does not reach 2 ^ 64 does not wrap around. -/
theorem stop_toNat (h : region.range.stop < UInt64.size) : region.stop.toNat = region.range.stop :=
  toNat_add_ofNat h

theorem covers_iff_holds (h : region.range.stop < UInt64.size) :
    region.Covers address count ↔ region.Holds address count := by
  rw [Covers, Holds, stop_toNat h]

theorem covers_iff_contains (h : region.range.stop < UInt64.size) (hcount : 0 < count) :
    region.Covers address count ↔
      ∀ index, (AddressRange.mk address count).Contains index → region.range.Contains index := by
  refine ⟨fun h index ↦ h.contains, fun hall ↦ (covers_iff_holds h).2 ?_⟩
  have hfirst := hall address.toNat ⟨Nat.le_refl _, Nat.lt_add_of_pos_right hcount⟩
  have hlast := hall (address.toNat + (count - 1))
    ⟨Nat.le_add_right _ _, by dsimp only; omega⟩
  have hstop : address.toNat + (count - 1) < region.range.stop := hlast.2
  exact ⟨hfirst.1, by omega⟩

/-! ## Zero bytes -/

@[simp]
theorem range_replicate (address : UInt64) (count : Nat) (byte : UInt8) :
    (Region.mk address (Array.replicate count byte)).range = ⟨address, count⟩ := by
  rw [range, Array.size_replicate]

theorem byte?_replicate {byte : UInt8} (h : (AddressRange.mk address count).Contains index) :
    (Region.mk address (Array.replicate count byte)).byte? index = some byte := by
  obtain ⟨hbase, hstop⟩ := AddressRange.contains_mk.1 h
  have hindex : index - address.toNat < count := Nat.sub_lt_left_of_lt_add hbase hstop
  rw [byte?, if_pos hbase]
  exact Array.getElem?_replicate.trans (if_pos hindex)

/-! ## Extension -/

@[simp]
theorem base_extend (region : Region) (count : Nat) : (region.extend count).base = region.base := rfl

@[simp]
theorem range_extend (region : Region) (count : Nat) :
    (region.extend count).range = ⟨region.base, region.bytes.size + count⟩ := by
  simp [range, extend]

theorem stop_range_extend (region : Region) (count : Nat) :
    (region.extend count).range.stop = region.range.stop + count := by
  rw [range_extend, stop_range, AddressRange.stop, Nat.add_assoc]

/-- Unless it wraps around with them, the end moves by the addresses that are added. -/
theorem stop_extend (h : region.stop.toNat + count < UInt64.size) :
    (region.extend count).stop.toNat = region.stop.toNat + count := by
  have hstop : (region.extend count).stop = region.stop + UInt64.ofNat count := by
    simp [stop, extend, UInt64.ofNat_add, UInt64.add_assoc]
  rw [hstop, toNat_add_ofNat h]

theorem contains_extend : (region.extend count).range.Contains index ↔
    region.range.Contains index ∨
      (region.range.stop ≤ index ∧ index < region.range.stop + count) := by
  rw [range_extend, stop_range, range, AddressRange.contains_mk, AddressRange.contains_mk]
  omega

theorem byte?_extend_of_contains (h : region.range.Contains index) :
    (region.extend count).byte? index = region.byte? index := by
  obtain ⟨hbase, hstop⟩ : region.base.toNat ≤ index ∧ index < region.base.toNat + region.bytes.size := h
  rw [byte?, byte?, base_extend, if_pos hbase, if_pos hbase, extend,
    Array.getElem?_append_left (by omega)]

theorem byte?_extend_of_stop_le (hstop : region.range.stop ≤ index)
    (hindex : index < region.range.stop + count) :
    (region.extend count).byte? index = some 0 := by
  rw [stop_range] at hstop hindex
  rw [byte?, base_extend, if_pos (by omega), extend, Array.getElem?_append_right (by omega),
    Array.getElem?_replicate, if_pos (by omega)]

/-! ## Overwriting -/

@[simp]
theorem base_overwrite (region : Region) (address : UInt64) (data : List UInt8) :
    (region.overwrite address data).base = region.base := rfl

theorem size_overwrite (h : region.Holds address data.length) :
    (region.overwrite address data).bytes.size = region.bytes.size := by
  obtain ⟨hbase, hstop⟩ := h
  have hle : region.base.toNat ≤ address.toNat := hbase
  rw [stop_range] at hstop
  simp only [overwrite, offset, Array.size_append, Array.size_extract, List.size_toArray]
  omega

theorem range_overwrite (h : region.Holds address data.length) :
    (region.overwrite address data).range = region.range := by
  rw [range, range, size_overwrite h]
  rfl

/-- The written bytes at their addresses, and the earlier ones elsewhere. -/
theorem byte?_overwrite (h : region.Holds address data.length) :
    (region.overwrite address data).byte? index =
      if (AddressRange.mk address data.length).Contains index then data[index - address.toNat]?
      else region.byte? index := by
  obtain ⟨hbase, hstop⟩ := h
  have hle : region.base.toNat ≤ address.toNat := hbase
  rw [stop_range] at hstop
  have hbefore : (region.bytes.extract 0 (region.offset address)).size = region.offset address := by
    rw [Array.size_extract, offset]
    omega
  have hthrough : (region.bytes.extract 0 (region.offset address) ++ data.toArray).size =
      region.offset address + data.length := by
    rw [Array.size_append, hbefore, List.size_toArray]
  by_cases hindex : region.base.toNat ≤ index
  · rw [byte?, byte?, base_overwrite, if_pos hindex, if_pos hindex, overwrite]
    by_cases hlow : index < address.toNat
    · rw [if_neg fun hin ↦ Nat.not_le_of_lt hlow hin.1,
        Array.getElem?_append_left (by rw [hthrough, offset]; omega),
        Array.getElem?_append_left (by rw [hbefore, offset]; omega), Array.getElem?_extract,
        if_pos (by rw [offset]; omega), Nat.zero_add]
    · by_cases hhigh : index < address.toNat + data.length
      · rw [if_pos ⟨Nat.le_of_not_lt hlow, hhigh⟩,
          Array.getElem?_append_left (by rw [hthrough, offset]; omega),
          Array.getElem?_append_right (by rw [hbefore, offset]; omega), hbefore, List.getElem?_toArray]
        congr 1
        rw [offset]
        omega
      · rw [if_neg fun hin ↦ hhigh hin.2,
          Array.getElem?_append_right (by rw [hthrough, offset]; omega), hthrough,
          Array.getElem?_extract]
        split
        · congr 1
          rw [offset]
          omega
        · rw [Array.getElem?_eq_none]
          rw [offset] at *
          omega
  · rw [byte?, byte?, base_overwrite, if_neg hindex, if_neg hindex,
      if_neg fun hin ↦ hindex (Nat.le_trans hle hin.1)]

/-! ## Slices -/

theorem getElem?_slice (h : region.Covers address count) (hindex : index < count) :
    (region.slice address count)[index]? = region.byte? (address.toNat + index) := by
  obtain ⟨hbase, hstop⟩ := h.holds
  have hle : region.base.toNat ≤ address.toNat := hbase
  rw [stop_range] at hstop
  rw [slice, offset, byte?, if_pos (by omega), Array.getElem?_toList, Array.getElem?_extract,
    if_pos (by omega)]
  congr 1
  omega

/-! ## Readable ranges -/

theorem isSome_read?_iff {regions : List Region} : (read? regions address count).isSome ↔
    address.toNat + count < UInt64.size ∧ ∃ region ∈ regions, region.Covers address count := by
  unfold read?
  split
  · next hbelow =>
    simp only [hbelow, true_and, Option.isSome_map, List.find?_isSome, decide_eq_true_eq]
  · next hbelow => simp only [hbelow, false_and, Option.isSome_none, Bool.false_eq_true]

/-- Where a range can be read, each part of it can be, also an empty one at its end. -/
theorem isSome_read?_part {regions : List Region} {part : UInt64} {size : Nat}
    (h : (read? regions address count).isSome) (hstart : address.toNat ≤ part.toNat)
    (hstop : part.toNat + size ≤ address.toNat + count) : (read? regions part size).isSome := by
  obtain ⟨hbelow, region, hmem, hbase, hcovers⟩ := isSome_read?_iff.1 h
  refine isSome_read?_iff.2 ⟨Nat.lt_of_le_of_lt hstop hbelow, region, hmem, ?_, Nat.le_trans hstop hcovers⟩
  exact UInt64.le_iff_toNat_le.2 (Nat.le_trans (UInt64.le_iff_toNat_le.1 hbase) hstart)

end Region

end MemoryInspector
