import MemoryInspector.Binary.Reader

/-!
# Headers of line tables

A unit may refer to a line table, whose header has to be well formed though nothing in it has a
part in types.
-/

namespace MemoryInspector.DebugInfo.LineTable

open Binary

/-- Skip entries, each by one reader, up to an empty text. -/
def skipTexts (rest : Reader Unit) : (limit : Nat) → Reader Unit
  | 0 => failure
  | limit + 1 => do
    let text ← Reader.terminated
    if text.isEmpty then return ()
    else
      rest
      skipTexts rest limit

/-- Skip one value. Only the forms of the format of entries are allowed. -/
def skipForm (wide : Bool) : Nat → Reader Unit
  | 0x03 => do Reader.skip (← Reader.number 2)
  | 0x04 => do Reader.skip (← Reader.number 4)
  | 0x05 | 0x26 => Reader.skip 2
  | 0x06 | 0x28 => Reader.skip 4
  | 0x07 => Reader.skip 8
  | 0x08 => do let _ ← Reader.terminated
  | 0x09 => do Reader.skip (← Reader.unsigned)
  | 0x0A => do Reader.skip (← Reader.number 1)
  | 0x0B | 0x0C | 0x25 => Reader.skip 1
  | 0x0D => do let _ ← Reader.signed
  | 0x0E | 0x17 | 0x1D | 0x1F | 0x1F21 => do let _ ← Reader.word wide
  | 0x0F | 0x1A | 0x1F02 => do let _ ← Reader.unsigned
  | 0x1E => Reader.skip 16
  | 0x27 => Reader.skip 3
  | _ => failure

/-- The forms of the values of an entry; exactly one of them is its path. -/
def entryForms : Reader (List Nat) := do
  let columns ← Reader.repeated (do
    let content ← Reader.unsigned
    let form ← Reader.shortUnsigned
    return (content, form)) (← Reader.number 1)
  if columns.countP (·.1 == 1) = 1 then return columns.map (·.2) else failure

/-- Skip a list of entries of the given forms. -/
def skipEntries (wide : Bool) : Reader Unit := do
  let forms ← entryForms
  let count ← Reader.unsigned
  let input ← read
  let start ← Reader.position
  let skipEntry := forms.forM (skipForm wide)
  if count ≤ input.stop - start then
    let _ ← Reader.repeated skipEntry count
  else failure

/-- Read the header of a line table behind its length. -/
def body (wide : Bool) : Reader Unit := do
  let version ← Reader.number 2
  if version < 2 ∨ version > 5 then failure
  if version = 5 then
    let _ ← Reader.addressSize
    if (← Reader.number 1) ≠ 0 then failure
  let length ← Reader.word wide
  let start ← Reader.position
  Reader.skip length
  let inHeader (input : Input) : Input := { input with stop := start + length }
  fun input ↦ do
    set start
    (do
      if (← Reader.number 1) = 0 then failure
      if version ≥ 4 then
        if (← Reader.number 1) = 0 then failure
      Reader.skip 2
      if (← Reader.number 1) = 0 then failure
      let opcodes ← Reader.number 1
      if opcodes = 0 then failure
      Reader.skip (opcodes - 1)
      if version ≤ 4 then
        skipTexts (pure ()) (length + 1)
        skipTexts (do
          let _ ← Reader.unsigned
          let _ ← Reader.unsigned
          let _ ← Reader.unsigned) (length + 1)
      else
        skipEntries wide
        skipEntries wide : Reader Unit) (inHeader input)

/-- Whether a well formed header stands at an offset of the section. -/
def isValidAt (section_ : ByteArray) (order : ByteOrder) (offset : Nat) : Bool :=
  let input : Input := ⟨section_, order, section_.size⟩
  let header : Reader Unit := do
    let (length, wide) ← Reader.initialLength
    let start ← Reader.position
    Reader.skip length
    fun input ↦ do
      set start
      body wide { input with stop := start + length }
  offset ≤ section_.size && (header.runAt input offset).isSome

end MemoryInspector.DebugInfo.LineTable
