import MemoryInspector.Pattern.Class
import MemoryInspector.Pattern.Matching
import MemoryInspector.Pattern.Size

/-!
# Written patterns

The reading of regular expressions: alternatives, groups with names and flags, repetitions, classes
of characters, escapes and anchors. There are no back references and no look around. Every reader
consumes text, so the length of the text bounds how often one calls another.
-/

namespace MemoryInspector.Pattern

/-- A part of a pattern with its depth: how many groups, repetitions, classes, sequences and choices
lie in each other. Flags that stand alone are a part too, but one that cannot be repeated. -/
structure Piece where
  pattern : Pattern
  depth : Nat := 0
  repeatable : Bool := true

/-- The greatest depth of a pattern. -/
def depthLimit : Nat := 250

/-- Several pieces in one. A single piece stays as it is. -/
def Piece.combine (whole : List Pattern → Pattern) (pieces : List Piece) : Piece where
  pattern := whole (pieces.map (·.pattern))
  depth :=
    let deepest := pieces.foldl (fun depth piece ↦ max depth piece.depth) 0
    if pieces.length ≤ 1 then deepest else deepest + 1

/-- A group while it is read: the alternatives that are complete, and the pieces of the current one,
each with the last one first. -/
structure OpenGroup where
  alternatives : List Piece := []
  pieces : List Piece := []

namespace OpenGroup

def add (opened : OpenGroup) (piece : Piece) : OpenGroup :=
  { opened with pieces := piece :: opened.pieces }

/-- Go on with the next alternative. -/
def nextAlternative (opened : OpenGroup) : OpenGroup :=
  ⟨.combine sequence opened.pieces.reverse :: opened.alternatives, []⟩

def close (opened : OpenGroup) : Piece :=
  .combine choice opened.nextAlternative.alternatives.reverse

/-- Repeat the last piece. -/
def repeatLast? (flags : Flags) (least : Nat) (most : Option Nat) (lazy : Bool)
    (opened : OpenGroup) : Option OpenGroup :=
  match opened.pieces with
  | last :: others =>
    if last.repeatable then
      some { opened with
        pieces := ⟨repeated last.pattern least most (lazy == flags.swapGreed), last.depth + 1, true⟩
          :: others }
    else none
  | [] => none

end OpenGroup

/-- The flag of a letter, set to a value. -/
def Flags.assign? (flags : Flags) (value : Bool) : Char → Option Flags
  | 'i' => some { flags with ignoreCase := value }
  | 'm' => some { flags with multiLine := value }
  | 's' => some { flags with dotMatchesNewline := value }
  | 'U' => some { flags with swapGreed := value }
  | 'R' => some { flags with anyReturn := value }
  | 'x' => some { flags with verbose := value }
  | 'u' => some { flags with unicode := value }
  | _ => none

/-- The flags that letters set, and after a hyphen clear. Neither a letter nor the hyphen may come
twice, and the hyphen not last. -/
def Flags.assignAll? (flags : Flags) (letters : List Char) : Option Flags := do
  let (cleared, given) := letters.foldl
    (fun (cleared, given) c ↦ (cleared || c == '-', (c, !cleared) :: given)) (false, [])
  if cleared && letters.getLast? == some '-' then failure
  if letters.eraseDups.length < letters.length then failure
  (given.filter (·.1 != '-')).foldrM (fun (c, value) flags ↦ flags.assign? value c) flags

/-- The start of the text or of a line. -/
def Flags.startLook (flags : Flags) : Look :=
  if flags.multiLine then .lineStart flags.lineEnding else .textStart

/-- The end of the text or of a line. -/
def Flags.endLook (flags : Flags) : Look :=
  if flags.multiLine then .lineEnd flags.lineEnding else .textEnd

/-- What comes at the start of a group. -/
inductive GroupStart where
  /-- No group but flags for the rest of the one around. -/
  | flagsOnly
  | numbered (index : Nat)
  | plain

namespace Read

/-- Letters and digits of all scripts. -/
def isNameCharacter (first : Bool) (c : Char) : Bool :=
  let isIn (rule : Property.Rule) : Bool := rule.members.contains c.toNat
  if first then c == '_' || isIn Property.alphabetic
  else
    c == '_' || c == '.' || c == '[' || c == ']' || isIn Property.alphabetic ||
      isIn (.categories ["Nd", "Nl", "No"])

/-- The number of the next group. -/
def nextGroup : Read Nat := do
  let index := (← get).groups + 1
  modify fun reader ↦ { reader with groups := index }
  return index

/-- The name of a group, which no other group may have. -/
def groupName : Read Unit := do
  let name := (← rest).takeWhile (· != '>')
  setRest ((← rest).drop name.length)
  guard (← accept ">")
  match name with
  | [] => failure
  | first :: others =>
    guard (isNameCharacter true first && others.all (isNameCharacter false))
    guard (!(← get).names.contains name)
    modify fun reader ↦ { reader with names := name :: reader.names }

def setFlags (flags : Flags) : Read Unit := modify fun reader ↦ { reader with flags }

/-- The start of a group. -/
def groupStart : Read GroupStart := do
  advanceSkip
  if ["?=", "?!", "?<=", "?<!"].any (·.toList.isPrefixOf (← rest)) then failure
  let named ← if ← accept "?P<" then pure true else accept "?<"
  if named then
    let index ← nextGroup
    groupName
    return .numbered index
  else if ← accept "?" then
    let letters := (← rest).takeWhile fun c ↦ c != ':' && c != ')'
    setRest ((← rest).drop letters.length)
    setFlags (← (← flags).assignAll? letters)
    let isGroup := (← current) == ':'
    advance
    guard (isGroup || !letters.isEmpty)
    return if isGroup then .plain else .flagsOnly
  else return .numbered (← nextGroup)

/-- A number below two to the power of 32. -/
def number : Read Nat := do
  setRest ((← rest).dropWhile Text.isBlank)
  let digits ← takeWhile Char.isDigit
  setRest ((← rest).dropWhile Text.isBlank)
  let n ← Text.digits? 10 digits
  guard (n < UInt32.size)
  return n

/-- How often something is repeated: the bounds in braces. -/
def bounds : Read (Nat × Option Nat) := do
  advanceSkip
  let least ← number
  let most ← if (← current) == ',' then do
      advanceSkip
      if (← current) == '\x7d' then pure none else some <$> number
    else pure (some least)
  guard ((← current) == '\x7d')
  guard (most.all (least ≤ ·))
  advanceSkip
  return (least, most)

/-- The character that a single sign stands for. -/
def literal (c : Char) : Read Piece := do
  let flags ← flags
  if flags.unicode || c.toNat < 0x80 then return ⟨ofSet (flags.foldCase (.single c.toNat)), 0, true⟩
  else return ⟨text [c], 0, true⟩

/-- One character of any kind, apart from ends of lines unless the flags say so. -/
def anyCharacter : Read Piece := do
  let flags ← flags
  guard flags.unicode
  let excluded : CodePoints :=
    if flags.dotMatchesNewline then .empty
    else if flags.anyReturn then .ofRanges [⟨10, 10⟩, ⟨13, 13⟩]
    else .single 10
  return ⟨ofSet excluded.complement, 0, true⟩

/-- A part of a pattern that is neither a group nor a repetition. -/
def simplePiece (c : Char) : Read Piece := do
  if c == '[' then
    let set ← bracketed
    return ⟨ofSet set.chars, set.depth, true⟩
  else
    advance
    let flags ← flags
    match c with
    | '\\' =>
      match ← escape with
      | .char c => literal c
      | .set chars => return ⟨ofSet chars, 0, true⟩
      | .look condition => return ⟨look condition, 0, true⟩
    | '.' => anyCharacter
    | '^' => return ⟨look flags.startLook, 0, true⟩
    | '$' => return ⟨look flags.endLook, 0, true⟩
    | _ => literal c

/-- The alternatives up to the end of a group or of the whole text. -/
def group : (limit : Nat) → OpenGroup → Read Piece
  | 0, _ => failure
  | limit + 1, opened => do
    skip
    let again (least : Nat) (most : Option Nat) : Read Piece := do
      let lazy ← accept "?"
      group limit (← opened.repeatLast? (← flags) least most lazy)
    match ← current? with
    | none | some ')' => return opened.close
    | some '|' =>
      advance
      group limit opened.nextAlternative
    | some '(' =>
      let outside ← flags
      match ← groupStart with
      | .flagsOnly => group limit (opened.add ⟨empty, 0, false⟩)
      | start =>
        let inner ← group limit {}
        guard (← accept ")")
        setFlags outside
        let pattern := match start with
          | .numbered index => .group index inner.pattern
          | _ => inner.pattern
        group limit (opened.add ⟨pattern, inner.depth + 1, true⟩)
    | some '?' =>
      advance
      again 0 (some 1)
    | some '*' =>
      advance
      again 0 none
    | some '+' =>
      advance
      again 1 none
    | some '\x7b' =>
      let (least, most) ← bounds
      again least most
    | some c => group limit (opened.add (← simplePiece c))

end Read

/-- The pattern that a text spells. It is neither too deep nor too large. -/
def ofString? (text : String) : Option Pattern := do
  let chars := text.toList
  let (piece, reader) ← (Read.group (chars.length + 1) {}).run { rest := chars }
  if reader.rest.isEmpty && piece.depth ≤ depthLimit && piece.pattern.fits then
    some piece.pattern
  else none

/-- The pattern that matches what a text spells as a whole: the text is put between anchors. -/
def ofWholeText? (text : String) : Option Pattern := ofString? (s!"^(?:{text})$")

end MemoryInspector.Pattern
