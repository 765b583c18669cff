import MemoryInspector.Pattern.CodePoints
import MemoryInspector.Text.Blank
import MemoryInspector.Text.Numeral

/-!
# Written tables of characters

Properties of characters are kept as texts. A text lists ranges of code points in hexadecimal, or it
runs through all code points from zero on and gives each stretch of them a label and a length.
-/

namespace MemoryInspector.Pattern.Property

/-- A range such as `41-5A`, or a single code point. -/
def readRange? (word : List Char) : Option CodeRange := do
  let least ← Text.digits? 16 (word.takeWhile (· != '-'))
  match word.dropWhile (· != '-') with
  | [] => some ⟨least, least⟩
  | _ :: upper => some ⟨least, ← Text.digits? 16 upper⟩

/-- The set that a list of ranges gives. -/
def ofList (text : String) : CodePoints := .ofRanges ((Text.words text.toList).filterMap readRange?)

/-- Stretches of code points with their labels. -/
abbrev Stretches := List (String × CodeRange)

/-- Stretches from a code point on. A word is a label and a length; the length one is left out. -/
def stretchesFrom : (start : Nat) → List (List Char) → Stretches
  | _, [] => []
  | start, word :: rest =>
    let label := word.takeWhile (!·.isDigit)
    let length := (Text.digits? 10 (word.dropWhile (!·.isDigit))).getD 1
    (String.ofList label, ⟨start, start + length - 1⟩) :: stretchesFrom (start + length) rest

def stretches (text : String) : Stretches := stretchesFrom 0 (Text.words text.toList)

/-- The code points with a label that a condition picks. -/
def labelled (table : Stretches) (pick : String → Bool) : CodePoints :=
  .ofRanges ((table.filter (pick ·.1)).map (·.2))

example : (ofList "41-43 61").ranges = [⟨0x41, 0x43⟩, ⟨0x61, 0x61⟩] := by cbv

end MemoryInspector.Pattern.Property
