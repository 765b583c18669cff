import MemoryInspector.Text.Blank
import MemoryInspector.Text.Numeral

/-!
# Written type names

A written type is a base, then stars, then at most one array length in brackets, as in
`struct SVector *` or `char [10]`. Reading one needs no knowledge of the types that exist.
-/

namespace MemoryInspector

open Text

structure TypeName where
  /-- The base follows one of the words `struct`, `union` and `enum`. -/
  tagged : Bool
  base : String
  /-- The number of stars. -/
  stars : Nat
  length : Option UInt64
deriving DecidableEq, Repr

namespace TypeName

/-- Separate a closing bracket and its content from the text before it; the content has to be a
numeral. A text without such brackets has no length. -/
def splitLength? (text : List Char) : Option (List Char × Option UInt64) :=
  match text.reverse with
  | ']' :: reversed =>
    match reversed.dropWhile (· != '[') with
    | '[' :: before =>
      (integer? (trim (reversed.takeWhile (· != '[')).reverse)).map fun length ↦
        (trimEnd before.reverse, some length)
    | _ => some (text, none)
  | _ => some (text, none)

/-- Separate the stars at the end, with white space around them, from the text before them. -/
def splitStars (text : List Char) : List Char × Nat :=
  let isTail (c : Char) : Bool := c == '*' || isBlank c
  ((text.reverse.dropWhile isTail).reverse, (text.reverse.takeWhile isTail).count '*')

/-- The words of a base without qualifiers, and whether a tag word came first. -/
def baseWords (text : List Char) : Bool × List String :=
  let kept := ((words text).map String.ofList).filter fun word ↦
    word != "const" && word != "volatile"
  match kept with
  | "struct" :: rest => (true, rest)
  | "union" :: rest => (true, rest)
  | "enum" :: rest => (true, rest)
  | all => (false, all)

def read? (text : List Char) : Option TypeName :=
  (splitLength? (trim text)).bind fun (before, length) ↦
    let (base, stars) := splitStars before
    let (tagged, words) := baseWords base
    let name := String.intercalate " " words
    if name.isEmpty then none else some ⟨tagged, name, stars, length⟩

example : read? "struct SVector * *".toList = some ⟨true, "SVector", 2, none⟩ := by decide +kernel

example : read? " const char [ 0x10 ] ".toList = some ⟨false, "char", 0, some 16⟩ := by
  decide +kernel

example : read? "char [x]".toList = none := by decide +kernel

end TypeName

end MemoryInspector
