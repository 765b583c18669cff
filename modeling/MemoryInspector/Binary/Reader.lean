import MemoryInspector.Binary.Bytes

/-!
# Reading binary data in order

A reader takes fields from a position on and moves behind them. It never reads past the end that
it was given.
-/

namespace MemoryInspector.Binary

structure Input where
  bytes : ByteArray
  order : ByteOrder
  /-- The position behind the last byte that may be read. -/
  stop : Nat

abbrev Reader := ReaderT Input (StateT Nat Option)

namespace Reader

/-- Run a reader from a position on. -/
def runAt {α : Type} (reader : Reader α) (input : Input) (position : Nat) : Option (α × Nat) :=
  (reader input).run position

def position : Reader Nat := fun _ ↦ get

/-- Whether everything has been read. -/
def atEnd : Reader Bool := fun input ↦ do return input.stop ≤ (← get)

def skip (count : Nat) : Reader Unit := fun input ↦ do
  let start ← get
  if start + count ≤ input.stop then set (start + count) else failure

def number (width : Nat) : Reader Nat := fun input ↦ do
  let start ← get
  skip width input
  number? input.order input.bytes start width

def bytes (count : Nat) : Reader ByteArray := fun input ↦ do
  let start ← get
  skip count input
  slice? input.bytes start count

/-- As many items as `count` says. -/
def repeated {α : Type} (reader : Reader α) : (count : Nat) → Reader (List α)
  | 0 => return []
  | count + 1 => do
    let first ← reader
    return first :: (← repeated reader count)

/-- A table of items of one size, all of which lie before the end. -/
def table {α : Type} (count size : Nat) (item : Reader α) : Reader (List α) := do
  let start ← position
  skip (count * size)
  fun input ↦ do
    let (items, _) ← (repeated item count).runAt input start
    return items

/-- A number of four bytes, or of eight in wide data. -/
def word (wide : Bool) : Reader Nat := number (if wide then 8 else 4)

/-- The bytes before the next zero byte, which is skipped. -/
def terminated : Reader ByteArray := fun input ↦ do
  let start ← get
  let stop ← zeroFrom? input.bytes start (input.stop - start)
  set (stop + 1)
  return input.bytes.extract start stop

/-- The groups of seven bits of a number of variable length, least first. The last byte is the one
without the highest bit. -/
def groups : (limit : Nat) → Reader (List Nat)
  | 0 => failure
  | limit + 1 => do
    let b ← number 1
    if b < 128 then return [b]
    else return (b - 128) :: (← groups limit)

def ofGroups (found : List Nat) : Nat := found.foldr (fun group n ↦ group + 128 * n) 0

/-- An unsigned number of variable length, below 2 ^ 64. -/
def unsigned : Reader Nat := do
  let n := ofGroups (← groups 10)
  if n < UInt64.size then return n else failure

/-- An unsigned number of variable length, below 2 ^ 16 and in at most three bytes. -/
def shortUnsigned : Reader Nat := do
  let n := ofGroups (← groups 3)
  if n < UInt16.size then return n else failure

/-- A signed number of variable length and 64 bits. The tenth byte can only extend the sign. -/
def signed : Reader Int := do
  let found ← groups 10
  if found.length = 10 ∧ found.getLast? ≠ some 0 ∧ found.getLast? ≠ some 127 then failure
  else return Int.bmod (Int.bmod (ofGroups found) (1 <<< (7 * found.length))) UInt64.size

/-- The length of a unit, before which a mark tells whether the data is wide. -/
def initialLength : Reader (Nat × Bool) := do
  let short ← number 4
  if short < 0xFFFFFFF0 then return (short, false)
  else if short = 0xFFFFFFFF then return (← number 8, true)
  else failure

/-- The size of addresses: a power of two up to eight. -/
def addressSize : Reader Nat := do
  let size ← number 1
  if size ∈ [1, 2, 4, 8] then return size else failure

end Reader

end MemoryInspector.Binary
