import MemoryInspector.Pattern.CaseFolding
import MemoryInspector.Pattern.Basic
import MemoryInspector.Text.Blank
import MemoryInspector.Text.Numeral

/-!
# Reading written patterns

The state of reading a pattern, and its steps. Where the pattern is verbose, white space and
comments between the parts of it say nothing.
-/

namespace MemoryInspector.Pattern

structure Flags where
  ignoreCase : Bool := false
  multiLine : Bool := false
  dotMatchesNewline : Bool := false
  swapGreed : Bool := false
  anyReturn : Bool := false
  verbose : Bool := false
  unicode : Bool := true
deriving DecidableEq, Repr

namespace Flags

/-- The words that a pattern means. -/
def alphabet (flags : Flags) : Alphabet := if flags.unicode then .unicode else .ascii

def lineEnding (flags : Flags) : LineEnding := if flags.anyReturn then .anyReturn else .newline

/-- A set with all that differs from it in case alone, if case does not count. -/
def foldCase (flags : Flags) (chars : CodePoints) : CodePoints :=
  if flags.ignoreCase then (if flags.unicode then chars.fold else chars.foldAscii) else chars

/-- The complement of a set, if it is asked for. Without Unicode there are no complements, because
they would have bytes that are no characters. -/
def negate? (flags : Flags) (negated : Bool) (chars : CodePoints) : Option CodePoints :=
  if !negated then some chars
  else if flags.unicode then some chars.complement
  else none

end Flags

/-- What is still to be read, the flags that hold there, the number of groups so far, and the names
of groups. -/
structure Reader where
  rest : List Char
  flags : Flags := {}
  groups : Nat := 0
  names : List (List Char) := []

abbrev Read := StateT Reader Option

/-- The text behind white space and comments. A comment goes to the end of its line. -/
def skipIgnored (inComment : Bool) : List Char → List Char
  | [] => []
  | c :: rest =>
    if inComment then skipIgnored (c != '\n') rest
    else if Text.isBlank c then skipIgnored false rest
    else if c == '#' then skipIgnored true rest
    else c :: rest

namespace Read

def flags : Read Flags := return (← get).flags

def rest : Read (List Char) := return (← get).rest

def setRest (rest : List Char) : Read Unit := modify fun reader ↦ { reader with rest }

/-- The next character, if there is one. -/
def current? : Read (Option Char) := return (← rest).head?

/-- The next character; there has to be one. -/
def current : Read Char := do (← current?)

/-- Go past a character. -/
def advance : Read Unit := do setRest ((← rest).drop 1)

/-- Go past what says nothing. -/
def skip : Read Unit := do
  if (← flags).verbose then setRest (skipIgnored false (← rest))

/-- Go past a character and past what says nothing after it. -/
def advanceSkip : Read Unit := do
  advance
  skip

/-- Go past a text, if it comes next. -/
def accept (text : String) : Read Bool := do
  let before ← rest
  if text.toList.isPrefixOf before then
    setRest (before.drop text.length)
    return true
  else return false

/-- The character that counts after the next one. In a verbose pattern that is the first that is no
white space, apart from one sign that opens a comment; a rest of white space counts as it is. -/
def peekBehind (verbose : Bool) (text : List Char) : Option Char :=
  let behind := text.drop 1
  if verbose then
    match behind.filter (!Text.isBlank ·) with
    | '#' :: c :: _ => some c
    | c :: _ => if c == '#' then behind.head? else some c
    | [] => behind.head?
  else behind.head?

/-- Characters of a kind, with what says nothing between them left out. -/
def takeWhile (kind : Char → Bool) : Read (List Char) := do go (← rest).length
where
  go : (limit : Nat) → Read (List Char)
    | 0 => return []
    | limit + 1 => do
      match ← current? with
      | none => return []
      | some c =>
        if kind c then
          advanceSkip
          return c :: (← go limit)
        else return []

/-- What braces enclose. -/
def braced : Read (List Char) := do
  guard ((← current) == '\x7b')
  advanceSkip
  let text ← takeWhile (· != '\x7d')
  guard ((← current) == '\x7d')
  advance
  return text

end Read

end MemoryInspector.Pattern
