import MemoryInspector.Memory

/-!
# Core dumps

Memory images taken from the loadable segments of a core dump. The bytes of a segment come from
the file as far as the file holds them; the rest of the segment reads as zeros.
-/

namespace MemoryInspector

structure LoadSegment where
  base : UInt64
  fileOffset : UInt64
  fileSize : UInt64
  /-- Size in memory. -/
  size : UInt64
deriving DecidableEq, Repr

namespace LoadSegment

/-- The segment covers the range; a segment that would pass the last address is cut off there. -/
def Covers (segment : LoadSegment) (address : UInt64) (count : Nat) : Prop :=
  segment.base ≤ address ∧
    address.toNat + count ≤ min (segment.base.toNat + segment.size.toNat) (UInt64.size - 1)

instance (segment : LoadSegment) (address : UInt64) (count : Nat) :
    Decidable (segment.Covers address count) :=
  inferInstanceAs (Decidable (_ ∧ _))

/-- The bytes of a covered range, unless the file ends before the part of them that it holds. -/
def slice? (segment : LoadSegment) (contents : ByteArray) (address : UInt64) (count : Nat) :
    Option (List UInt8) :=
  let offset := address.toNat - segment.base.toNat
  let stored := min (segment.fileSize.toNat - offset) count
  let start := segment.fileOffset.toNat + offset
  if stored = 0 then some (List.replicate count 0)
  else if start + stored ≤ contents.size then
    some ((contents.extract start (start + stored)).data.toList ++
      List.replicate (count - stored) 0)
  else none

theorem length_slice? {segment : LoadSegment} {contents : ByteArray} {address : UInt64}
    {count : Nat} {found : List UInt8} (h : segment.slice? contents address count = some found) :
    found.length = count := by
  simp only [slice?] at h
  split at h
  · obtain rfl := Option.some.inj h
    simp
  · split at h
    · obtain rfl := Option.some.inj h
      simp only [List.length_append, Array.length_toList, List.length_replicate,
        ByteArray.data_extract, Array.size_extract, ByteArray.size_data]
      omega
    · simp at h

end LoadSegment

structure CoreDump where
  path : String
  contents : ByteArray
  segments : List LoadSegment

namespace CoreDump

/-- The first segment that covers the range gives the bytes. -/
def bytes? (core : CoreDump) (address : UInt64) (count : Nat) : Option (List UInt8) :=
  if address.toNat + count < UInt64.size then
    (core.segments.find? (·.Covers address count)).bind (·.slice? core.contents address count)
  else none

theorem length_bytes? {core : CoreDump} {address : UInt64} {count : Nat} {found : List UInt8}
    (h : core.bytes? address count = some found) : found.length = count := by
  unfold bytes? at h
  split at h
  · obtain ⟨segment, -, hs⟩ := Option.bind_eq_some_iff.1 h
    exact LoadSegment.length_slice? hs
  · simp at h

def memory (core : CoreDump) : Memory where
  bytes? := core.bytes?
  length_bytes? := length_bytes?
  description := s!"core file {core.path}"

end CoreDump

end MemoryInspector
