import MemoryInspector.Pattern.Basic

/-!
# Matches of patterns

A pattern takes positions of a text where matches start to those where they end. A match is a path
of positions, so that no order among alternatives matters. Sets of positions are the bits of
numbers.
-/

namespace MemoryInspector.Pattern

/-- A relation between the positions of a text: for each the set of those it is related to. -/
abbrev Reach := Array Nat

namespace Reach

/-- The relation of the positions from zero on that a function gives. -/
def ofFunction (size : Nat) (ends : Nat → Nat) : Reach := ((List.range size).map ends).toArray

def identity (size : Nat) : Reach := ofFunction size (1 <<< ·)

/-- The positions that those of a set are related to. -/
def image (reach : Reach) (positions : Nat) : Nat :=
  if positions = 0 then 0
  else
    reach.getD positions.log2 0 ||| image reach (positions - 1 <<< positions.log2)
termination_by positions
decreasing_by
  have : 0 < 1 <<< positions.log2 := Nat.one_shiftLeft _ ▸ Nat.two_pow_pos _
  omega

/-- One relation after the other. -/
def andThen (first second : Reach) : Reach := first.map second.image

def union (first second : Reach) : Reach := first.zipWith (· ||| ·) second

/-- A number of steps of a relation. -/
def power (reach : Reach) (count : Nat) : Reach :=
  if count = 0 then identity reach.size
  else
    let half := power reach (count / 2)
    let twice := half.andThen half
    if count % 2 = 0 then twice else twice.andThen reach
termination_by count

/-- Any number of steps of a relation that leads to no earlier position. What later positions reach
is worked out first. -/
def closure (reach : Reach) : Reach :=
  (List.range reach.size).foldr (fun start (known : Reach) ↦
      known.setIfInBounds start (1 <<< start ||| known.image (reach.getD start 0)))
    (ofFunction reach.size fun _ ↦ 0)

/-- Between `least` and `most` steps. Steps that stay at their place are the only ones beyond as
many as there are positions, and one more or less of them makes no difference. -/
def between (reach : Reach) (least : Nat) (most : Option Nat) : Reach :=
  let enough := reach.size
  let extra := match most with
    | some most =>
      if most - least < enough then (reach.union (identity reach.size)).power (most - least)
      else reach.closure
    | none => reach.closure
  (reach.power (min least enough)).andThen extra

end Reach

/-- How a pattern leads from position to position in one text. -/
inductive Motion where
  /-- Go on by a distance from each of some positions. -/
  | step (starts distance : Nat)
  | seq (first second : Motion)
  | either (first second : Motion)
  | jump (reach : Reach)
deriving Repr

/-- The positions to which a motion leads from those of a set. -/
def Motion.image : Motion → Nat → Nat
  | step starts distance, positions => (positions &&& starts) <<< distance
  | seq first second, positions => second.image (first.image positions)
  | either first second, positions => first.image positions ||| second.image positions
  | jump reach, positions => reach.image positions

/-- The set of the positions in a text that a condition picks, its end among them. -/
def positionsWhere (chars : Array Char) (pick : Nat → Bool) : Nat :=
  (List.range (chars.size + 1)).foldl (fun positions n ↦
    if pick n then positions ||| 1 <<< n else positions) 0

/-- The motion from the starts of matches in a text to their ends. -/
def motion (chars : Array Char) : Pattern → Motion
  | empty => .step (positionsWhere chars fun _ ↦ true) 0
  | text word =>
    let starts := positionsWhere chars fun start ↦
      word.zipIdx.all fun (c, n) ↦ chars[start + n]? == some c
    .step starts word.length
  | set members =>
    .step (positionsWhere chars fun start ↦ chars[start]?.any (members.contains ·.toNat)) 1
  | look condition => .step (positionsWhere chars (condition.holds chars)) 0
  | seq first second => .seq (first.motion chars) (second.motion chars)
  | either first second => .either (first.motion chars) (second.motion chars)
  | times inner least most _ =>
    let once := inner.motion chars
    .jump ((Reach.ofFunction (chars.size + 1) fun start ↦ once.image (1 <<< start)).between
      least most)
  | group _ inner => inner.motion chars

/-- Whether the pattern matches some part of a text. -/
def isMatch (pattern : Pattern) (text : String) : Bool :=
  let chars := text.toList.toArray
  (pattern.motion chars).image (positionsWhere chars fun _ ↦ true) != 0

end MemoryInspector.Pattern
