import MemoryInspector.Config
import MemoryInspector.Yaml.Node

/-!
# Configuration files

The configuration that a YAML document describes. A structure is a mapping by the names of its
members; a member that is not known is ignored, but a known one may not come twice.
-/

namespace MemoryInspector.Config

open Text Yaml

/-- Readings of a document. The state counts the references that have been followed. -/
abbrev Decoder := ReaderT Document (StateT Nat Option)

/-- The node itself, or the one that it refers to. -/
def follow : Node → Decoder Node
  | .reference anchor => do
    let document ← read
    let count ← get
    if document.referenceLimit ≤ count then failure
    set (count + 1)
    return (document.anchored.lookup anchor).getD .empty
  | node => return node

/-- Any scalar is a text. -/
def readText (node : Node) : Decoder String := do
  match ← follow node with
  | .scalar _ _ text => return text
  | _ => failure

/-- A number below 2 ^ 64 in a base that its first characters name. A decimal numeral may not start
with a zero. -/
def parseWord? (text : String) : Option UInt64 :=
  let toWord (n : Option Nat) : Option UInt64 :=
    n.bind fun n ↦ if n < UInt64.size then some (UInt64.ofNat n) else none
  let digits := match text.toList with
    | '+' :: rest => rest
    | all => all
  match digits with
  | '0' :: 'x' :: rest => toWord (digits? 16 rest)
  | '0' :: 'o' :: rest => toWord (digits? 8 rest)
  | '0' :: 'b' :: rest => toWord (digits? 2 rest)
  | ['0'] => some 0
  | '0' :: _ => none
  | _ => toWord (digits? 10 digits)

/-- Numbers are written plain, or as literal blocks that are tagged as integers. -/
def readWord (node : Node) : Decoder UInt64 := do
  match ← follow node with
  | .scalar _ .plain text => liftM (parseWord? text)
  | .scalar (some "tag:yaml.org,2002:int") .literal text => liftM (parseWord? text)
  | _ => failure

def isEmptyScalar : Node → Bool
  | .scalar _ .plain "" => true
  | _ => false

/-- The items of a sequence; an empty scalar is an empty one. -/
def readItems (node : Node) : Decoder (List Node) := do
  match ← follow node with
  | .sequence items => return items
  | other => if isEmptyScalar other then return [] else failure

/-- The entries of a mapping with their keys as texts; an empty scalar is an empty one. -/
def readEntries (node : Node) : Decoder (List (String × Node)) := do
  match ← follow node with
  | .mapping entries => entries.mapM fun (key, value) ↦ do return (← readText key, value)
  | other => if isEmptyScalar other then return [] else failure

/-- The members of a structure with the given names. -/
def readMembers (names : List String) (node : Node) : Decoder (List (String × Node)) := do
  let known := (← readEntries node).filter fun entry ↦ names.contains entry.1
  if (known.map (·.1)).Nodup then return known else failure

/-- A mapping from texts to texts; of two values for a key the last one counts. -/
def readNames (node : Node) : Decoder (Std.TreeMap String String) := do
  (← readEntries node).foldlM (fun known (name, value) ↦ do
    return known.insert name (← readText value)) ∅

/-- The member of that name, by a reading of its node. -/
def member {α : Type} (members : List (String × Node)) (name : String) (decode : Node → Decoder α) :
    Decoder α := do
  decode (← liftM (members.lookup name))

/-- A member that may be missing, which is the same as an empty one. -/
def memberOrEmpty {α : Type} (members : List (String × Node)) (name : String)
    (decode : Node → Decoder α) : Decoder α :=
  decode ((members.lookup name).getD .empty)

def readField (node : Node) : Decoder FieldEntry := do
  let members ← readMembers ["name", "offset", "type"] node
  return ⟨← member members "name" readText, ← member members "offset" readWord,
    ← member members "type" readText⟩

def readRecord (node : Node) : Decoder RecordEntry := do
  let members ← readMembers ["name", "size", "fields"] node
  let fields ← member members "fields" readItems
  return ⟨← member members "name" readText, ← member members "size" readWord,
    ← fields.mapM readField⟩

/-- Layouts and symbols may be missing, and so may the two parts of layouts. -/
def readConfig (root : Node) : Decoder Config := do
  let members ← readMembers ["layouts", "symbols"] root
  let layouts ← memberOrEmpty members "layouts" (readMembers ["records", "typedefs"])
  let records ← memberOrEmpty layouts "records" readItems
  return ⟨← records.mapM readRecord, ← memberOrEmpty layouts "typedefs" readNames,
    ← memberOrEmpty members "symbols" readNames⟩

/-- The configuration that a text describes. -/
def ofText? (text : String) : Option Config := do
  let document ← Document.read? text
  let (config, _) ← ((readConfig document.root).run document).run 0
  return config

end MemoryInspector.Config
