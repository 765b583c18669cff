import MemoryInspector.Pattern.Look

/-!
# Patterns

Regular expressions over texts, and the functions that put them together. Those keep patterns in a
plain form: no sequence lies in a sequence and no choice in a choice, neighbouring texts are one
text, a choice between characters is a set of them, and what all alternatives of a choice start with
stands in front of it.
-/

namespace MemoryInspector

inductive Pattern where
  /-- The empty text. -/
  | empty
  | text (chars : List Char)
  /-- One character of a set; nothing matches if the set is empty. -/
  | set (chars : Pattern.CodePoints)
  | look (condition : Pattern.Look)
  | seq (first second : Pattern)
  | either (first second : Pattern)
  /-- Between `least` and `most` matches one after another; without a bound if there is none. -/
  | times (inner : Pattern) (least : Nat) (most : Option Nat) (greedy : Bool)
  /-- A group with a number. -/
  | group (index : Nat) (inner : Pattern)
deriving DecidableEq, Repr

namespace Pattern

/-- The number of bytes that a code point takes up in UTF-8. -/
def byteLength (n : Nat) : Nat :=
  if n < 0x80 then 1 else if n < 0x800 then 2 else if n < 0x10000 then 3 else 4

/-- The least number of bytes that a match has, if there can be one. -/
def shortest? : Pattern → Option Nat
  | empty => some 0
  | text chars => some (chars.foldl (fun n c ↦ n + byteLength c.toNat) 0)
  | set chars => chars.ranges.head?.map (byteLength ·.least)
  | look _ => some 0
  | seq first second => do return (← first.shortest?) + (← second.shortest?)
  | either first second => do return min (← first.shortest?) (← second.shortest?)
  | times inner least _ _ => do return (← inner.shortest?) * least
  | group _ inner => inner.shortest?

/-- The greatest number of bytes that a match has, if there can be one and there is a bound. -/
def longest? : Pattern → Option Nat
  | empty => some 0
  | text chars => some (chars.foldl (fun n c ↦ n + byteLength c.toNat) 0)
  | set chars => chars.ranges.getLast?.map (byteLength ·.greatest)
  | look _ => some 0
  | seq first second => do return (← first.longest?) + (← second.longest?)
  | either first second => do return max (← first.longest?) (← second.longest?)
  | times inner _ most _ => do return (← inner.longest?) * (← most)
  | group _ inner => inner.longest?

/-- Every match begins at the start of the text, as far as the first parts of the pattern show. -/
def isStartBound : Pattern → Bool
  | look condition => condition == .textStart
  | seq first second =>
    first.isStartBound || (first.longest? == some 0 && second.isStartBound)
  | either first second => first.isStartBound && second.isStartBound
  | times inner least _ _ => least != 0 && inner.isStartBound
  | group _ inner => inner.isStartBound
  | _ => false

/-- Every match stops at the end of the text, as far as the last parts of the pattern show. -/
def isEndBound : Pattern → Bool
  | look condition => condition == .textEnd
  | seq first second =>
    second.isEndBound || (second.longest? == some 0 && first.isEndBound)
  | either first second => first.isEndBound && second.isEndBound
  | times inner least _ _ => least != 0 && inner.isEndBound
  | group _ inner => inner.isEndBound
  | _ => false

/-! ## Sets and repetitions -/

/-- One character of a set. -/
def ofSet (chars : CodePoints) : Pattern :=
  match chars.singleton? with
  | some n => text [Char.ofNat n]
  | none => set chars

/-- Repetition. If nothing but the empty text can be repeated, then once is as good as often. -/
def repeated (inner : Pattern) (least : Nat) (most : Option Nat) (greedy : Bool) : Pattern :=
  let (least, most) :=
    if inner.longest? == some 0 then (min least 1, some (min (most.getD 1) 1)) else (least, most)
  match least, most with
  | 0, some 0 => empty
  | 1, some 1 => inner
  | _, _ => times inner least most greedy

/-! ## Sequences -/

/-- The members of a sequence. -/
def parts : Pattern → List Pattern
  | seq first second => first :: second.parts
  | other => [other]

/-- Put neighbouring texts together and leave out what is empty. -/
def joinTexts : List Pattern → List Pattern
  | [] => []
  | empty :: rest => joinTexts rest
  | text chars :: rest =>
    match joinTexts rest with
    | text more :: others => text (chars ++ more) :: others
    | others => text chars :: others
  | other :: rest => other :: joinTexts rest

def ofParts : List Pattern → Pattern
  | [] => empty
  | [only] => only
  | first :: rest => seq first (ofParts rest)

/-- Patterns one after another. -/
def sequence (patterns : List Pattern) : Pattern :=
  ofParts (joinTexts (patterns.flatMap parts))

/-! ## Choices -/

/-- The members of a choice. -/
def alternatives : Pattern → List Pattern
  | either first second => first :: second.alternatives
  | other => [other]

def ofAlternatives : List Pattern → Pattern
  | [] => set .empty
  | [only] => only
  | first :: rest => either first (ofAlternatives rest)

/-- The set of the characters that are the patterns, if each is a single one. -/
def singleChars? (patterns : List Pattern) : Option CodePoints := do
  let ranges ← patterns.mapM fun
    | text [c] => some (⟨c.toNat, c.toNat⟩ : CodeRange)
    | _ => none
  return .ofRanges ranges

/-- The union of the sets that are the patterns, if each is a set. -/
def joinedSet? (patterns : List Pattern) : Option CodePoints := do
  let ranges ← patterns.mapM fun
    | set chars => some chars.ranges
    | _ => none
  return .ofRanges ranges.flatten

/-- What two lists have in common at the front. -/
def commonFront : List Pattern → List Pattern → List Pattern
  | first :: rest, second :: others =>
    if first = second then first :: commonFront rest others else []
  | _, _ => []

/-- What all alternatives start with, if they are sequences. -/
def commonParts : List Pattern → List Pattern
  | [] => []
  | [seq first second] => (seq first second).parts
  | seq first second :: rest => commonFront (seq first second).parts (commonParts rest)
  | _ => []

/-- A choice between patterns; `limit` bounds how often parts are moved in front of a choice. -/
def choiceWithin : (limit : Nat) → List Pattern → Pattern
  | 0, patterns => ofAlternatives patterns
  | limit + 1, patterns =>
    let patterns := patterns.flatMap alternatives
    match patterns with
    | [] | [_] => ofAlternatives patterns
    | _ =>
      match singleChars? patterns <|> joinedSet? patterns with
      | some chars => ofSet chars
      | none =>
        match commonParts patterns with
        | [] => ofAlternatives patterns
        | common =>
          let rests := patterns.map fun pattern ↦
            sequence (pattern.parts.drop common.length)
          sequence (common ++ [choiceWithin limit rests])

/-- The number of parts that a pattern is made of. -/
def size : Pattern → Nat
  | seq first second | either first second => first.size + second.size + 1
  | times inner _ _ _ | group _ inner => inner.size + 1
  | _ => 1

/-- A choice between patterns. -/
def choice (patterns : List Pattern) : Pattern :=
  choiceWithin (patterns.foldl (fun n pattern ↦ n + pattern.size) 1) patterns

example : sequence [text ['a'], seq (text ['b']) (look .textEnd), empty] =
    seq (text ['a', 'b']) (look .textEnd) := by
  decide

end Pattern

end MemoryInspector
