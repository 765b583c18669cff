import MemoryInspector.Pattern.Property
import MemoryInspector.Pattern.Reader

/-!
# Escapes

What stands behind a backslash in a pattern: a character, a set of characters or a condition.
-/

namespace MemoryInspector.Pattern

inductive Escape where
  | char (c : Char)
  | set (chars : CodePoints)
  | look (condition : Look)

namespace Read

/-- The character of a hexadecimal numeral. -/
def character? (digits : List Char) : Option Char := do
  let n ← Text.digits? 16 digits
  if n < 0xD800 || (0xE000 ≤ n && n < 0x110000) then some (Char.ofNat n) else none

/-- A number of digits. -/
def fixedDigits : (count : Nat) → Read (List Char)
  | 0 => return []
  | count + 1 => do
    let c ← current
    advanceSkip
    return c :: (← fixedDigits count)

/-- A character by its number: in braces, or with a number of digits. Without Unicode a number of
two digits stands for a byte, and no byte beyond ASCII is a character. -/
def numbered (count : Nat) : Read Escape := do
  advanceSkip
  if (← current) == '\x7b' then return .char (← character? (← braced))
  else
    let c ← character? (← fixedDigits count)
    guard ((← flags).unicode || count != 2 || c.toNat < 0x80)
    return .char c

/-- The set that the name of a property stands for. A name may say a value, and also that the value
is a different one. -/
def propertySet? (name : List Char) : Option (CodePoints × Bool) :=
  let parted (equal : List Char) : Option (List Char × List Char) :=
    (List.range name.length).findSome? fun n ↦
      if equal.isPrefixOf (name.drop n) then some (name.take n, name.drop (n + equal.length))
      else none
  match parted ['!', '='] with
  | some (property, value) => (Property.valued? property value).map (·, true)
  | none =>
    match parted [':'] <|> parted ['='] with
    | some (property, value) => (Property.valued? property value).map (·, false)
    | none => (Property.named? name).map (·, false)

/-- A set by a property: a single letter, or a name in braces. -/
def property (negated : Bool) : Read Escape := do
  advanceSkip
  let c ← current
  let name ← if c == '\x7b' then braced
    else do
      guard (c != '\\')
      advance
      pure [c]
  guard (← flags).unicode
  let (chars, different) ← propertySet? name
  return .set (← (← flags).negate? (negated != different) ((← flags).foldCase chars))

/-- The sets with a letter of their own. -/
def letterSet? (flags : Flags) : Char → Option CodePoints
  | 'd' => some (if flags.unicode then Property.ofCategories ["Nd"] else .range 48 57)
  | 's' => some (if flags.unicode then Property.whiteSpace.members
      else .ofRanges [⟨9, 13⟩, ⟨32, 32⟩])
  | 'w' => some flags.alphabet.wordSet
  | _ => none

/-- A word boundary of a kind that is named in braces. If no name follows, then the brace is that of
a repetition. -/
def boundary : Read Look := do
  let alphabet := (← flags).alphabet
  if (← current?) != some '\x7b' then return .wordBoundary alphabet
  let before ← rest
  advanceSkip
  if isNameChar (← current) then
    let name ← takeWhile isNameChar
    guard ((← current) == '\x7d')
    advance
    match String.ofList name with
    | "start" => return .wordStart alphabet
    | "end" => return .wordEnd alphabet
    | "start-half" => return .wordStartHalf alphabet
    | "end-half" => return .wordEndHalf alphabet
    | _ => failure
  else
    setRest before
    return .wordBoundary alphabet
where
  isNameChar (c : Char) : Bool := c.isAlpha || c == '-'

/-- The characters that stand for themselves behind a backslash. -/
def isEscapable (c : Char) : Bool := c.toNat < 128 && !c.isAlphanum && c != '<' && c != '>'

/-- What stands behind a backslash. -/
def escape : Read Escape := do
  let c ← current
  match c with
  | 'x' => numbered 2
  | 'u' => numbered 4
  | 'U' => numbered 8
  | 'p' => property false
  | 'P' => property true
  | _ =>
    advance
    let flags ← flags
    match c with
    | 'a' => return .char '\x07'
    | 'f' => return .char '\x0c'
    | 't' => return .char '\t'
    | 'n' => return .char '\n'
    | 'r' => return .char '\r'
    | 'v' => return .char '\x0b'
    | 'A' => return .look .textStart
    | 'z' => return .look .textEnd
    | 'b' => return .look (← boundary)
    | 'B' => return .look (.noWordBoundary flags.alphabet)
    | '<' => return .look (.wordStart flags.alphabet)
    | '>' => return .look (.wordEnd flags.alphabet)
    | _ =>
      if let some chars := letterSet? flags c.toLower then
        return .set (← flags.negate? c.isUpper chars)
      guard (isEscapable c)
      return .char c

end Read

end MemoryInspector.Pattern
