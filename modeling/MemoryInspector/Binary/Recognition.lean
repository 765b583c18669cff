import MemoryInspector.Binary.Elf
import MemoryInspector.Binary.MachO
import MemoryInspector.Binary.Portable
import MemoryInspector.Binary.Xcoff

/-!
# Recognition of object files

The format of a file shows in its first bytes. Collections of object files are none themselves.
-/

namespace MemoryInspector.Binary.ObjectFile

/-- The first bytes of relocatable code for the known kinds of machines. -/
def coffMarks : List Nat := [0xC401, 0x64AA, 0x41A6, 0x4C01, 0x6486]

/-- The object file with the given contents. -/
def parse? (bytes : ByteArray) : Option ObjectFile := do
  guard (16 ≤ bytes.size)
  let mark ← number? .big bytes 0 4
  if mark = 0x7F454C46 then Elf.parse? bytes
  else if mark = 0xFEEDFACE then MachO.parse? false .big bytes
  else if mark = 0xCEFAEDFE then MachO.parse? false .little bytes
  else if mark = 0xFEEDFACF then MachO.parse? true .big bytes
  else if mark = 0xCFFAEDFE then MachO.parse? true .little bytes
  else if mark / 65536 = 0x4D5A then Portable.parse? bytes
  else if coffMarks.contains (mark / 65536) then Coff.parse? false bytes
  else if mark = 0xFFFF then Coff.parse? true bytes
  else if mark / 65536 = 0x01DF then Xcoff.parse? false bytes
  else if mark / 65536 = 0x01F7 then Xcoff.parse? true bytes
  else none

end MemoryInspector.Binary.ObjectFile
