/-!
# Little-endian words

Numbers as bytes, least significant first.
-/

namespace MemoryInspector.Text

/-- How many numbers there are of a width in bytes. -/
def valueCount (width : Nat) : Nat := Nat.pow 256 width

/-- The number with the given little-endian bytes. -/
def ofLittleEndian : List UInt8 → Nat
  | [] => 0
  | b :: rest => b.toNat + 256 * ofLittleEndian rest

/-- The `width` little-endian bytes of a number; higher bits are dropped. -/
def toLittleEndian : Nat → Nat → List UInt8
  | 0, _ => []
  | width + 1, n => UInt8.ofNat n :: toLittleEndian width (n / 256)

@[simp] theorem valueCount_zero : valueCount 0 = 1 := rfl

theorem valueCount_succ (width : Nat) : valueCount (width + 1) = 256 * valueCount width :=
  Nat.mul_comm _ _

@[simp] theorem ofLittleEndian_nil : ofLittleEndian [] = 0 := rfl

@[simp] theorem ofLittleEndian_cons (b : UInt8) (rest : List UInt8) :
    ofLittleEndian (b :: rest) = b.toNat + 256 * ofLittleEndian rest := rfl

@[simp] theorem length_toLittleEndian (width n : Nat) :
    (toLittleEndian width n).length = width := by
  induction width generalizing n with
  | zero => rfl
  | succ width ih => simp [toLittleEndian, ih]

theorem ofLittleEndian_toLittleEndian (width n : Nat) :
    ofLittleEndian (toLittleEndian width n) = n % valueCount width := by
  induction width generalizing n with
  | zero => simp [toLittleEndian, Nat.mod_one]
  | succ width ih =>
    simp only [toLittleEndian, ofLittleEndian_cons, ih, valueCount_succ, Nat.mod_mul]
    simp

theorem ofLittleEndian_lt (bytes : List UInt8) :
    ofLittleEndian bytes < valueCount bytes.length := by
  induction bytes with
  | nil => simp
  | cons b rest ih =>
    have := b.toNat_lt
    simp only [ofLittleEndian_cons, List.length_cons, valueCount_succ]
    omega

end MemoryInspector.Text
