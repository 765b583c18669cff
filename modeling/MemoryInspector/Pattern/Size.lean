import MemoryInspector.Pattern.Basic
import MemoryInspector.Pattern.ByteSequences
import Std.Data.HashMap

/-!
# Sizes of patterns

A pattern may only be so large that automata for it fit into a given amount of storage: one that
reads texts from the front, with places for the ends of groups, and one that reads them from the
back. The automata read UTF-8 byte by byte. Their states are counted here without being built.

Sets of characters share states. The states are found again through a memory with a fixed number of
slots in which a state drives out an older one, so that not all that could be shared is.
-/

namespace MemoryInspector.Pattern

/-- The storage for all states of an automaton. -/
def storageLimit : Nat := 10 * 1024 * 1024

/-- The storage for a state without its transitions. -/
def stateStorage : Nat := 32

/-- The storage for a transition over a range of bytes. -/
def transitionStorage : Nat := 8

/-- The storage for one branch of a state from which several others are reached at once. -/
def branchStorage : Nat := 4

/-- The states counted so far, and their storage. -/
structure Tally where
  states : Nat := 0
  storage : Nat := 0

/-- Counting that stops where the storage is used up. -/
abbrev Count := StateT Tally Option

/-- Take up more storage. -/
def store (amount : Nat) : Count Unit := fun tally ↦
  let storage := tally.storage + amount
  if storage ≤ storageLimit then some ((), { tally with storage }) else none

/-- Add a state with storage for its transitions, and get its number. -/
def addState (transitions : Nat) : Count Nat := do
  store (stateStorage + transitions)
  modifyGet fun tally ↦ (tally.states, { tally with states := tally.states + 1 })

/-- The kind of the last state of a part: what follows a state that branches is one more branch. -/
inductive Exit where
  | plain
  | branching
deriving DecidableEq, Repr

/-- Lead from the last state of a part to another state. -/
def Exit.link : Exit → Count Unit
  | plain => return
  | branching => store branchStorage

inductive Direction where
  | forward
  | backward
deriving DecidableEq, Repr

/-! ## Sets of characters -/

/-- States by what leads away from them, in a number of slots. -/
structure Slots where
  count : Nat
  taken : Std.HashMap Nat (Array Nat × Nat) := {}

/-- The slot of a state. -/
def Slots.index (slots : Slots) (key : Array Nat) : Nat :=
  let mixed := key.foldl (fun (hash : UInt64) n ↦ (hash ^^^ n.toUInt64) * 1099511628211)
    14695981039346656037
  mixed.toNat % slots.count

abbrev Sharing := StateT Slots Count

/-- The number of the state with a key; a new one if it is not in its slot. -/
def sharedState (key : Array Nat) (transitions : Nat) : Sharing Nat := do
  let slots ← get
  let index := slots.index key
  match slots.taken[index]? with
  | some (present, state) =>
    if present = key then return state
    else fresh index
  | none => fresh index
where
  fresh (index : Nat) : Sharing Nat := do
    let state ← addState transitions
    modify fun slots ↦ { slots with taken := slots.taken.insert index (key, state) }
    return state

/-- A state that still gets transitions: those it has, each as the ends of its range and the state
it leads to, and the range of the last one, which leads to the next open state. -/
structure OpenState where
  transitions : Array Nat := #[]
  last : Option ByteRange := none

/-- The transitions of a state when its last one leads to a state. -/
def OpenState.close (opened : OpenState) (next : Nat) : Array Nat :=
  match opened.last with
  | some (least, greatest) => opened.transitions ++ #[least.toNat, greatest.toNat, next]
  | none => opened.transitions

/-- Close a chain of open states from its end on, and get the number of the first. -/
def closeChain (target : Nat) : List OpenState → Sharing Nat
  | [] => return target
  | opened :: rest => do
    let key := opened.close (← closeChain target rest)
    sharedState key (transitionStorage * (key.size / 3))

/-- Add a sequence of ranges to a chain of open states. What it has in common with the sequence
before it stays open. -/
def addSequence (target : Nat) : List OpenState → List ByteRange → Sharing (List OpenState)
  | opened :: chain, range :: rest => do
    if opened.last = some range then
      return opened :: (← addSequence target chain rest)
    else
      let next ← closeChain target chain
      return ⟨opened.close next, some range⟩ :: rest.map fun range ↦ { last := some range }
  | _, rest => return rest.map fun range ↦ { last := some range }

/-- Count a set of characters for reading from the front. -/
def countForward (chars : CodePoints) : Count Exit := do
  let target ← addState 0
  let work : Sharing Nat := do
    let chain ← chars.byteSequences.foldlM (addSequence target) [({} : OpenState)]
    closeChain target chain
  discard (work.run ⟨10000, {}⟩)
  return .plain

/-- Count a set of characters for reading from the back. -/
def countBackward (chars : CodePoints) : Count Exit := do
  discard (addState 0)
  let target ← addState 0
  let work : Sharing Unit := do
    for sequence in chars.byteSequences do
      discard (sequence.foldlM (fun state (least, greatest) ↦
        sharedState #[state, least.toNat, greatest.toNat] 0) target)
      store branchStorage
  discard (work.run ⟨1000, {}⟩)
  return .plain

/-- Count a set of characters. ASCII needs a single state with all transitions. -/
def countSet (direction : Direction) (chars : CodePoints) : Count Exit :=
  if chars.isAscii then do
    discard (addState 0)
    discard (addState (transitionStorage * chars.ranges.length))
    return .plain
  else
    match direction with
    | .forward => countForward chars
    | .backward => countBackward chars

/-! ## Choices between texts -/

/-- The texts before, between and after those that are empty. An empty text counts once only as
long as no other came. -/
def splitAtEmpty (texts : List (List UInt8)) : List (List (List UInt8)) :=
  let leading := texts.takeWhile (·.isEmpty)
  let rest := texts.dropWhile (·.isEmpty)
  if leading.isEmpty then pieces rest else [] :: pieces rest
where
  pieces : List (List UInt8) → List (List (List UInt8))
    | [] => [[]]
    | [] :: rest => [] :: pieces rest
    | bytes :: rest =>
      match pieces rest with
      | piece :: others => (bytes :: piece) :: others
      | [] => [[bytes]]

/-- Count a choice between texts, in which those with the same first bytes share states. -/
def countTexts : (longest : Nat) → List (List UInt8) → Count Unit
  | 0, _ => return
  | longest + 1, texts => do
    let pieces := splitAtEmpty texts
    for piece in pieces do
      let firsts := (piece.filterMap (·.head?)).eraseDups
      for first in firsts do
        let rests := (piece.filter (·.head? == some first)).map (·.drop 1)
        if rests.any (!·.isEmpty) then countTexts longest rests
      match firsts.length with
      | 0 => pure ()
      | 1 => discard (addState 0)
      | many => discard (addState (transitionStorage * many))
    let filled := pieces.filter (!·.isEmpty)
    discard (addState (branchStorage * (filled.length + (pieces.length - 1))))

/-! ## Patterns -/

/-- The bytes of the alternatives, if all of them are texts and there is more than one. -/
def texts? (direction : Direction) (patterns : List Pattern) : Option (List (List UInt8)) :=
  if patterns.length < 2 then none
  else patterns.mapM fun
    | text chars =>
      let bytes := chars.flatMap String.utf8EncodeChar
      some (if direction = .backward then bytes.reverse else bytes)
    | _ => none

/-- A number of further repetitions after a part. -/
def countMore (one : Count Exit) : (count : Nat) → Exit → Count Exit
  | 0, exit => return exit
  | count + 1, exit => do
    let next ← one
    exit.link
    countMore one count next

/-- A number of repetitions. -/
def countExactly (one : Count Exit) : (count : Nat) → Count Exit
  | 0 => do
    discard (addState 0)
    return .plain
  | count + 1 => do countMore one count (← one)

/-- Repetitions each of which may be the last one before the end. -/
def countOptional (one : Count Exit) : (count : Nat) → Exit → Count Unit
  | 0, exit => exit.link
  | count + 1, exit => do
    discard (addState (2 * branchStorage))
    let next ← one
    exit.link
    countOptional one count next

/-- Repetitions of a part that a condition tells not to match the empty text. -/
def countTimes (one : Count Exit) (consumes : Bool) (least : Nat) : Option Nat → Count Exit
  | some 1 =>
    if least = 0 then do
      discard (addState (2 * branchStorage))
      (← one).link
      discard (addState 0)
      return .plain
    else countExactly one 1
  | some most =>
    if least = most then countExactly one least
    else do
      let exit ← countExactly one least
      discard (addState 0)
      countOptional one (most - least) exit
      return .plain
  | none =>
    match least with
    | 0 =>
      if consumes then do
        discard (addState branchStorage)
        (← one).link
        return .branching
      else do
        (← one).link
        discard (addState (2 * branchStorage))
        discard (addState (2 * branchStorage))
        discard (addState 0)
        return .plain
    | least + 1 => do
      let exit ← countMore one least (← one)
      discard (addState branchStorage)
      exit.link
      return .branching

/-- Count an alternative after the first. The states where all alternatives start and end come behind
the first two. -/
def countAlternative (joined : Bool) (one : Count Exit) : Count Unit := do
  let exit ← one
  if !joined then
    discard (addState 0)
    discard (addState 0)
  store branchStorage
  exit.link

mutual

/-- Count the states of a pattern, and get the kind of the last one. -/
def count (direction : Direction) : Pattern → Count Exit
  | empty | look _ => do
    discard (addState 0)
    return .plain
  | text chars => do
    for _ in chars.flatMap String.utf8EncodeChar do
      discard (addState 0)
    return .plain
  | set chars => countSet direction chars
  | seq first second =>
    match direction with
    | .forward => do
      let exit ← count direction first
      let last ← count direction second
      exit.link
      return last
    | .backward => do
      let exit ← count direction second
      let last ← count direction first
      exit.link
      return last
  | either first second =>
    match texts? direction (first :: second.alternatives) with
    | some texts => do
      discard (addState 0)
      countTexts (texts.foldl (fun n text ↦ max n text.length) 0) texts
      return .plain
    | none => do
      let exit ← count direction first
      store branchStorage
      exit.link
      countRest direction false second
      return .plain
  | times inner least most _ =>
    countTimes (count direction inner) (inner.shortest?.any (0 < ·)) least most
  | group _ inner =>
    match direction with
    | .forward => do
      discard (addState 0)
      let exit ← count direction inner
      discard (addState 0)
      exit.link
      return .plain
    | .backward => count direction inner

/-- Count the alternatives after the first. -/
def countRest (direction : Direction) (joined : Bool) : Pattern → Count Unit
  | either first second => do
    countAlternative joined (count direction first)
    countRest direction true second
  | other => countAlternative joined (count direction other)

end

/-- Count the whole automaton of a pattern. Where matches are not bound to the side from which the
text is read, a loop over all bytes comes first. -/
def countWhole (direction : Direction) (pattern : Pattern) : Count Unit := do
  let bound := match direction with
    | .forward => pattern.isStartBound
    | .backward => pattern.isEndBound
  if bound then discard (addState 0)
  else
    discard (addState (2 * branchStorage))
    discard (addState 0)
    discard (addState transitionStorage)
  let exit ← count direction (group 0 pattern)
  discard (addState 0)
  exit.link

/-- Both automata of a pattern fit into the storage. -/
def fits (pattern : Pattern) : Bool :=
  [Direction.forward, .backward].all fun direction ↦ ((countWhole direction pattern).run {}).isSome

end MemoryInspector.Pattern
