import MemoryInspector.Compression.BackwardBits

/-!
# State codes

Codes that are read by going from state to state. A state stands for a symbol, and tells how many
bits to read and what to add to them for the next state. The more states a symbol has, the fewer
bits it takes.
-/

namespace MemoryInspector.Compression

structure StateCode.Cell where
  symbol : Nat
  width : Nat
  least : Nat
deriving Repr

structure StateCode where
  /-- There are as many states as numbers of so many bits. -/
  accuracy : Nat
  cells : Array StateCode.Cell
deriving Repr

namespace StateCode

/-- The code for a single symbol, which takes no bits. -/
def single (symbol : Nat) : StateCode := ⟨0, #[⟨symbol, 0, 0⟩]⟩

/-- How often a symbol occurs in as many places as there are states; less than once counts as
once. -/
inductive Frequency where
  | rare
  | times (count : Nat)
deriving DecidableEq, Repr

def Frequency.states : Frequency → Nat
  | rare => 1
  | times count => count

/-- The symbols of the states. Rare symbols have the last ones; the states of the others are spread
by going on with a fixed step. -/
def spread (size : Nat) (frequencies : List Frequency) : Array Nat :=
  let rare := (frequencies.zipIdx.filter (·.1 == .rare)).map (·.2)
  let step := size / 2 + size / 8 + 3
  let places := ((List.range size).map fun n ↦ n * step % size).filter (· < size - rare.length)
  let symbols := frequencies.zipIdx.flatMap fun
    | (.times count, symbol) => List.replicate count symbol
    | (.rare, _) => []
  let taken := rare.zipIdx.map fun (symbol, n) ↦ (size - 1 - n, symbol)
  (places.zip symbols ++ taken).foldl (fun table (place, symbol) ↦ table.setIfInBounds place symbol)
    (Array.replicate size 0)

/-- The code in which symbols have as many states as they occur. The states of a symbol are numbered
from that count on, and the number of a state decides how many bits lead on from it. -/
def ofFrequencies (accuracy : Nat) (frequencies : List Frequency) : StateCode where
  accuracy := accuracy
  cells :=
    let size := 1 <<< accuracy
    let first := (frequencies.map (·.states)).toArray
    let step := fun ((cells : Array Cell), (next : Array Nat)) (symbol : Nat) ↦
      let number := next.getD symbol 0
      let width := accuracy - number.log2
      (cells.push ⟨symbol, width, (number <<< width) - size⟩,
        next.setIfInBounds symbol (number + 1))
    ((spread size frequencies).foldl step (#[], first)).1

/-- Symbols that do not occur, in numbers of up to three. The result is their number, and the
position of the bits after them. -/
def skipped? (bytes : ByteArray) : (limit position : Nat) → Option (Nat × Nat)
  | 0, _ => none
  | limit + 1, position => do
    if 8 * bytes.size < position + 2 then none
    else
      let count := bitsAt bytes position 2
      if count < 3 then return (count, position + 2)
      else
        let (more, position) ← skipped? bytes limit (position + 2)
        return (count + more, position)

/-- The frequencies of symbols that share a number of places. Smaller ones take a bit less where the
number of bits allows for it. -/
def frequencies? (bytes : ByteArray) : (limit position places : Nat) →
    Option (List Frequency × Nat)
  | 0, _, _ => none
  | limit + 1, position, places => do
    if places = 0 then return ([], position)
    let width := (places + 1).log2 + 1
    if 8 * bytes.size < position + width then failure
    let value := bitsAt bytes position width
    let half := 1 <<< (width - 1)
    let saved := 2 * half - 1 - (places + 1)
    let (value, used) :=
      if value % half < saved then (value % half, width - 1)
      else if half ≤ value then (value - saved, width)
      else (value, width)
    let position := position + used
    match value with
    | 0 =>
      let (rest, position) ← frequencies? bytes limit position (places - 1)
      return (.rare :: rest, position)
    | 1 =>
      let (count, position) ← skipped? bytes limit position
      let (rest, position) ← frequencies? bytes limit position places
      return (.times 0 :: List.replicate count (.times 0) ++ rest, position)
    | value + 1 =>
      let (rest, position) ← frequencies? bytes limit position (places - value)
      return (.times value :: rest, position)

/-- The code that bytes describe, with the number of the bytes for it. -/
def read? (bytes : ByteArray) (greatestAccuracy symbols : Nat) : Option (StateCode × Nat) := do
  if bytes.size = 0 then failure
  let accuracy := 5 + bitsAt bytes 0 4
  if greatestAccuracy < accuracy then failure
  let (frequencies, position) ← frequencies? bytes (8 * bytes.size + 1) 4 (1 <<< accuracy)
  if symbols < frequencies.length then failure
  return (ofFrequencies accuracy frequencies, (position + 7) / 8)

/-- The state at the start. -/
def start (code : StateCode) : BackwardReader Nat := .bits code.accuracy

/-- The symbol of a state. -/
def symbol (code : StateCode) (state : Nat) : BackwardReader Nat := do
  return (← code.cells[state]?).symbol

/-- The state after a state. -/
def next (code : StateCode) (state : Nat) : BackwardReader Nat := do
  let cell ← code.cells[state]?
  return cell.least + (← .bits cell.width)

end StateCode

end MemoryInspector.Compression
