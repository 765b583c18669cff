import MemoryInspector.Binary.Reader

/-!
# Object files

What the formats of object files have in common: segments, which say what the file puts where in
memory, symbols, and sections that are found by their names.
-/

namespace MemoryInspector.Binary

structure Segment where
  address : Nat
  /-- Where the contents stand in the file. -/
  offset : Nat
  fileSize : Nat
  memorySize : Nat
deriving DecidableEq, Repr

inductive SymbolKind where
  | data
  | text
  | other
deriving DecidableEq, Repr

structure Symbol where
  /-- Missing where the name cannot be read or is not UTF-8. -/
  name : Option String
  kind : SymbolKind
  isDefined : Bool
  address : Nat
deriving DecidableEq, Repr

structure ObjectFile where
  order : ByteOrder
  segments : List Segment
  /-- The symbols, those for dynamic linking last. -/
  symbols : List Symbol
  /-- The contents of a section; there are none if there is no such section, and if it cannot be
  read. -/
  sectionNamed : String → ByteArray

/-- A table of texts in a file, each of which a zero byte ends. A table that does not lie inside the
file holds no text. -/
def textTable (contents : ByteArray) (offset size : Nat) : ByteArray :=
  (slice? contents offset size).getD .empty

/-- The text at an offset of a table, if it is UTF-8. -/
def textAt? (table : ByteArray) (offset : Nat) : Option String :=
  (terminated? table offset).bind String.fromUTF8?

/-- The bytes of a field of fixed size up to the first zero byte, if there is one. -/
def fixedText (field : ByteArray) : ByteArray := (terminated? field 0).getD field

end MemoryInspector.Binary
