import MemoryInspector.Binary.Recognition
import MemoryInspector.DebugInfo.Types
import MemoryInspector.DebugInfo.Units
import MemoryInspector.LoadError

/-!
# Types of a binary

The registry that the debug information of an object file describes.
-/

namespace MemoryInspector.DebugInfo

open Binary

def Sections.ofFile (file : ObjectFile) : Sections where
  order := file.order
  info := file.sectionNamed ".debug_info"
  abbreviations := file.sectionNamed ".debug_abbrev"
  strings := file.sectionNamed ".debug_str"
  lineStrings := file.sectionNamed ".debug_line_str"
  stringOffsets := file.sectionNamed ".debug_str_offsets"
  addresses := file.sectionNamed ".debug_addr"
  lines := file.sectionNamed ".debug_line"

/-- The registry that the sections describe. The types of each unit are collected before the next unit
is looked for. -/
def Sections.registry (sections : Sections) : Resolving Registry := do
  let types ← registryOf sections.units.found
  sections.units.outcome
  return types

/-- The registry of a binary with the given contents, unless references of its types never end. -/
def registryOfBinary (path : String) (contents : ByteArray) : Option (Except LoadError Registry) :=
  match ObjectFile.parse? contents with
  | none => some (.error (.malformedTypes path))
  | some file =>
    (Sections.ofFile file).registry.run.map fun
      | .error _ => .error (.malformedDebugInfo path)
      | .ok types => if types.recordCount = 0 then .error (.noTypes path) else .ok types

end MemoryInspector.DebugInfo
