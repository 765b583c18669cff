import MemoryInspector.Registry

/-!
# Layouts of the hierarchy

Compact layouts of a hierarchy node, of its visit stamp and of a vector of pointers. They serve
where a program brings no debug information; layouts that are read or configured replace them.
-/

namespace MemoryInspector.Hierarchy

def nodeType : String := "SelvaHierarchyNode"

def vectorType : String := "SVector"

/-- Bytes of a node id. -/
def idSize : UInt64 := 10

def idType : CType := .array (.scalar .char) idSize

def stampLayout : RecordLayout where
  name := "trx"
  size := 16
  fields := [⟨"tv_sec", 0, .scalar .int64⟩, ⟨"tv_nsec", 8, .scalar .int64⟩]

def vectorLayout : RecordLayout where
  name := vectorType
  size := 48
  fields := [
    ⟨"vec_mode", 0, .scalar .uint32⟩,
    ⟨"vec_arr_len", 8, .scalar .uint64⟩,
    ⟨"vec_last", 16, .scalar .uint64⟩,
    ⟨"vec_arr_shift_index", 24, .scalar .uint64⟩,
    ⟨"vec_compar", 32, .pointer .void⟩,
    ⟨"vec_arr", 40, .pointer (.pointer .void)⟩]

def nodeLayout : RecordLayout where
  name := nodeType
  size := 128
  fields := [
    ⟨"id", 0, idType⟩,
    ⟨"visit_stamp", 16, .record "trx"⟩,
    ⟨"parents", 32, .record vectorType⟩,
    ⟨"children", 80, .record vectorType⟩]

/-- The compact layouts and the names of a node id and of a pointer to a node. -/
def types : Registry :=
  Registry.empty
    |>.define "Selva_NodeId" idType
    |>.addRecord stampLayout
    |>.addRecord vectorLayout
    |>.addRecord nodeLayout
    |>.define "SelvaHierarchyNodePtr" (.pointer (.record nodeType))

example : types.record? nodeType = some nodeLayout := by decide

end MemoryInspector.Hierarchy
