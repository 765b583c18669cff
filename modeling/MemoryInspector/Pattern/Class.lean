import MemoryInspector.Pattern.Escape

/-!
# Classes of characters

The sets of characters that brackets enclose: characters, ranges, escapes, named classes of ASCII,
further brackets, and the operations between them. With a set comes how deep it is nested.
-/

namespace MemoryInspector.Pattern

/-- Classes of ASCII characters by name. -/
def namedClass? (name : String) : Option CodePoints :=
  let ranges? : Option (List CodeRange) := match name with
    | "alnum" => some [⟨48, 57⟩, ⟨65, 90⟩, ⟨97, 122⟩]
    | "alpha" => some [⟨65, 90⟩, ⟨97, 122⟩]
    | "ascii" => some [⟨0, 127⟩]
    | "blank" => some [⟨9, 9⟩, ⟨32, 32⟩]
    | "cntrl" => some [⟨0, 31⟩, ⟨127, 127⟩]
    | "digit" => some [⟨48, 57⟩]
    | "graph" => some [⟨33, 126⟩]
    | "lower" => some [⟨97, 122⟩]
    | "print" => some [⟨32, 126⟩]
    | "punct" => some [⟨33, 47⟩, ⟨58, 64⟩, ⟨91, 96⟩, ⟨123, 126⟩]
    | "space" => some [⟨9, 13⟩, ⟨32, 32⟩]
    | "upper" => some [⟨65, 90⟩]
    | "word" => some [⟨48, 57⟩, ⟨65, 90⟩, ⟨95, 95⟩, ⟨97, 122⟩]
    | "xdigit" => some [⟨48, 57⟩, ⟨65, 70⟩, ⟨97, 102⟩]
    | _ => none
  ranges?.map .ofRanges

inductive SetOperation where
  | intersection
  | difference
  | symmetricDifference
deriving DecidableEq, Repr

def SetOperation.apply : SetOperation → CodePoints → CodePoints → CodePoints
  | intersection => .intersection
  | difference => .difference
  | symmetricDifference => .symmetricDifference

/-- A set, and how many brackets, operations and lists of several members lie in each other. -/
structure NestedSet where
  chars : CodePoints
  depth : Nat

/-- A class while it is read: the operation that waits for its right side, the members read since,
their number, and the greatest depth of one. -/
structure OpenClass where
  pending : Option (NestedSet × SetOperation) := none
  members : CodePoints := .empty
  count : Nat := 0
  deepest : Nat := 0

namespace OpenClass

def add (opened : OpenClass) (member : NestedSet) : OpenClass :=
  { opened with
    members := .union opened.members member.chars
    count := opened.count + 1
    deepest := max opened.deepest member.depth }

/-- The members read since the last operation. -/
def joined (opened : OpenClass) : NestedSet :=
  ⟨opened.members, if opened.count ≤ 1 then opened.deepest else opened.deepest + 1⟩

/-- The set of all that was read. Case is taken out of both sides of an operation. -/
def close (flags : Flags) (opened : OpenClass) : NestedSet :=
  match opened.pending with
  | some (left, operation) =>
    let right := opened.joined
    ⟨operation.apply (flags.foldCase left.chars) (flags.foldCase right.chars),
      max left.depth right.depth + 1⟩
  | none => opened.joined

def operate (flags : Flags) (operation : SetOperation) (opened : OpenClass) : OpenClass :=
  { pending := some (opened.close flags, operation) }

end OpenClass

namespace Read

/-- A class such as `[:alpha:]`, if one comes next. -/
def namedClass : Read (Option NestedSet) := do
  let before ← rest
  if ← accept "[:" then
    let negated ← accept "^"
    let name := (← rest).takeWhile (· != ':')
    setRest ((← rest).drop name.length)
    if ← accept ":]" then
      if let some chars := namedClass? (String.ofList name) then
        let flags ← flags
        return some ⟨← flags.negate? negated (flags.foldCase chars), 0⟩
  setRest before
  return none

/-- A character by itself or by an escape, or the set of an escape. -/
def classItem : Read (Char ⊕ CodePoints) := do
  let c ← current
  advance
  if c != '\\' then return .inl c
  else
    match ← escape with
    | .char c => return .inl c
    | .set chars => return .inr chars
    | .look _ => failure

/-- A character of a class. Without Unicode it has to be of ASCII. -/
def classChar (c : Char) : Read Nat := do
  guard ((← flags).unicode || c.toNat < 0x80)
  return c.toNat

/-- A member of a class: an item, or the range between two characters. A hyphen before a closing
bracket or another hyphen makes no range. -/
def classMember : Read NestedSet := do
  let first ← classItem
  skip
  let c ← current
  let behind := peekBehind (← flags).verbose (← rest)
  if c != '-' || behind == some ']' || behind == some '-' then
    match first with
    | .inl c =>
      let n ← classChar c
      return ⟨.single n, 0⟩
    | .inr chars => return ⟨chars, 0⟩
  else
    advanceSkip
    match first, ← classItem with
    | .inl least, .inl greatest => do
      let least ← classChar least
      let greatest ← classChar greatest
      guard (least ≤ greatest)
      return ⟨.range least greatest, 0⟩
    | _, _ => failure

/-- Hyphens at the start of a class. -/
def leadingHyphens : (limit : Nat) → OpenClass → Read OpenClass
  | 0, opened => return opened
  | limit + 1, opened => do
    if (← current) == '-' then
      advanceSkip
      leadingHyphens limit (opened.add ⟨.single '-'.toNat, 0⟩)
    else return opened

/-- The start of a class, and whether it is the complement that is meant. Hyphens are members there,
and a closing bracket is one if it comes first. -/
def openClass : Read (Bool × OpenClass) := do
  advanceSkip
  let negated := (← current) == '^'
  if negated then advanceSkip
  let opened ← leadingHyphens (← rest).length {}
  if opened.count == 0 && (← current) == ']' then
    advanceSkip
    discard current
    return (negated, opened.add ⟨.single ']'.toNat, 0⟩)
  else return (negated, opened)

/-- The members of a class up to its closing bracket. -/
def classRest : (limit : Nat) → OpenClass → Read NestedSet
  | 0, _ => failure
  | limit + 1, opened => do
    skip
    let flags ← flags
    let operate (operation : SetOperation) : Read NestedSet :=
      classRest limit (opened.operate flags operation)
    if ← accept "]" then return opened.close flags
    else if ← accept "&&" then operate .intersection
    else if ← accept "--" then operate .difference
    else if ← accept "~~" then operate .symmetricDifference
    else if (← current) == '[' then
      match ← namedClass with
      | some named => classRest limit (opened.add named)
      | none =>
        let (negated, inner) ← openClass
        let set ← classRest limit inner
        let chars ← flags.negate? negated (flags.foldCase set.chars)
        classRest limit (opened.add ⟨chars, set.depth + 1⟩)
    else classRest limit (opened.add (← classMember))

/-- A class in brackets. -/
def bracketed : Read NestedSet := do
  let (negated, opened) ← openClass
  let set ← classRest ((← rest).length + 1) opened
  let flags ← flags
  return ⟨← flags.negate? negated (flags.foldCase set.chars), set.depth + 1⟩

end Read

end MemoryInspector.Pattern
