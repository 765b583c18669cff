/-!
# UTF-8 with errors

Decoding that puts one replacement character in the place of every longest run of bytes that
starts a character without completing it, and of every byte that starts none.
-/

namespace MemoryInspector.Text

def decodeUtf8? (bytes : List UInt8) : Option String := String.fromUTF8? ⟨bytes.toArray⟩

def replacement : Char := Char.ofNat 0xFFFD

def isContinuation (b : UInt8) : Bool := 0x80 ≤ b && b ≤ 0xBF

/-- How many bytes follow a first byte, and the least and greatest value of the one after it. -/
def sequenceShape? (first : UInt8) : Option (Nat × UInt8 × UInt8) :=
  if 0xC2 ≤ first && first ≤ 0xDF then some (1, 0x80, 0xBF)
  else if first == 0xE0 then some (2, 0xA0, 0xBF)
  else if first == 0xED then some (2, 0x80, 0x9F)
  else if 0xE1 ≤ first && first ≤ 0xEF then some (2, 0x80, 0xBF)
  else if first == 0xF0 then some (3, 0x90, 0xBF)
  else if first == 0xF4 then some (3, 0x80, 0x8F)
  else if 0xF1 ≤ first && first ≤ 0xF3 then some (3, 0x80, 0xBF)
  else none

/-- The bytes after the first one that belong to its character. -/
def followers (count : Nat) (least greatest : UInt8) : List UInt8 → List UInt8
  | [] => []
  | b :: rest =>
    if least ≤ b && b ≤ greatest then b :: (rest.take (count - 1)).takeWhile isContinuation
    else []

/-- The code point of a complete sequence. -/
def codePoint (first : UInt8) (followers : List UInt8) : Nat :=
  followers.foldl (fun n b ↦ n * 64 + b.toNat % 64) (first.toNat % (1 <<< (6 - followers.length)))

/-- The character at the front of a byte sequence, and how many bytes after the first it takes. -/
def frontChar (first : UInt8) (rest : List UInt8) : Char × Nat :=
  if first < 0x80 then (Char.ofNat first.toNat, 0)
  else match sequenceShape? first with
    | none => (replacement, 0)
    | some (count, least, greatest) =>
      let found := followers count least greatest rest
      (if found.length = count then Char.ofNat (codePoint first found) else replacement,
        found.length)

def decodeLossy : List UInt8 → List Char
  | [] => []
  | first :: rest =>
    let (c, count) := frontChar first rest
    c :: decodeLossy (rest.drop count)
termination_by bytes => bytes.length
decreasing_by
  simp only [List.length_cons, List.length_drop]
  omega

end MemoryInspector.Text
