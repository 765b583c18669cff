/-!
# Unsigned numerals

Numerals in a base up to sixteen, written in lower case without leading zeros and read in either
case. Values that are read are words of 64 bits, so a numeral of 2 ^ 64 or more is refused.
-/

namespace MemoryInspector.Text

def digit? (c : Char) : Option Nat :=
  if '0' ≤ c ∧ c ≤ '9' then some (c.toNat - 48)
  else if 'a' ≤ c ∧ c ≤ 'f' then some (c.toNat - 87)
  else if 'A' ≤ c ∧ c ≤ 'F' then some (c.toNat - 55)
  else none

/-- The value of a non-empty run of digits of the base. -/
def digits? (base : Nat) (text : List Char) : Option Nat :=
  if text.isEmpty then none
  else text.foldlM
    (fun value c ↦ (digit? c).bind fun d ↦ if d < base then some (value * base + d) else none) 0

/-- A numeral below 2 ^ 64, with an optional plus sign. -/
def word? (base : Nat) (text : List Char) : Option UInt64 :=
  let digits := match text with
    | '+' :: rest => rest
    | _ => text
  (digits? base digits).bind fun value ↦
    if value < UInt64.size then some (UInt64.ofNat value) else none

/-- A decimal numeral, or a hexadecimal one after `0x` or `0X`. -/
def integer? : List Char → Option UInt64
  | '0' :: 'x' :: rest => word? 16 rest
  | '0' :: 'X' :: rest => word? 16 rest
  | text => word? 10 text

def decimal (n : Nat) : String := String.ofList (Nat.toDigits 10 n)

def hex (n : Nat) : String := String.ofList (Nat.toDigits 16 n)

/-- A minus sign, for a negative number, before the decimal numeral of its size. -/
def signedDecimal (i : Int) : String :=
  if i < 0 then "-" ++ decimal i.natAbs else decimal i.natAbs

/-- A minus sign, for a negative number, before the hexadecimal numeral of its size. -/
def signedHex (i : Int) : String :=
  if i < 0 then "-" ++ hex i.natAbs else hex i.natAbs

example : integer? "0x1F".toList = some 31 ∧ integer? "+7".toList = some 7 := by decide

example : integer? "18446744073709551616".toList = none ∧ integer? "0x".toList = none := by decide

end MemoryInspector.Text
