import MemoryInspector.Binary.Recognition
import MemoryInspector.LoadError
import MemoryInspector.Memory.CoreDump

/-!
# Core files

The core dump in an object file: its segments, as large in memory as their part of the file at
least, and without the empty ones.
-/

namespace MemoryInspector

open Binary

namespace LoadSegment

def ofSegment? (segment : Segment) : Option LoadSegment :=
  let size := max segment.memorySize segment.fileSize
  if 0 < size then
    some ⟨UInt64.ofNat segment.address, UInt64.ofNat segment.offset,
      UInt64.ofNat segment.fileSize, UInt64.ofNat size⟩
  else none

end LoadSegment

namespace CoreDump

def ofFile (path : String) (contents : ByteArray) : Except LoadError CoreDump :=
  match ObjectFile.parse? contents with
  | none => .error (.malformedCore path)
  | some file =>
    match file.segments.filterMap LoadSegment.ofSegment? with
    | [] => .error (.emptyCore path)
    | segments => .ok ⟨path, contents, segments⟩

end CoreDump

end MemoryInspector
