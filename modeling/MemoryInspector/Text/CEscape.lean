/-!
# C escapes

Bytes as the characters of a C literal. Printable ASCII stands for itself, but for the quote and
the backslash; newline and tab have letters of their own, and all else is three octal digits.
-/

namespace MemoryInspector.Text

def octalDigit (n : Nat) : Char := Char.ofNat (48 + n % 8)

/-- The characters of one byte in a literal with the given quote. -/
def escapeByte (quote : Char) (byte : UInt8) : List Char :=
  let n := byte.toNat
  if n = 10 then ['\\', 'n']
  else if n = 9 then ['\\', 't']
  else if n = 92 then ['\\', '\\']
  else if n = quote.toNat then ['\\', quote]
  else if 32 ≤ n ∧ n ≤ 126 then [Char.ofNat n]
  else ['\\', octalDigit (n / 64), octalDigit (n / 8), octalDigit n]

def escapeBytes (quote : Char) (bytes : List UInt8) : List Char :=
  bytes.flatMap (escapeByte quote)

def quoteChar (byte : UInt8) : String :=
  String.ofList ('\'' :: escapeByte '\'' byte ++ ['\''])

/-- The bytes of a buffer before its first zero byte. -/
def beforeNul (bytes : List UInt8) : List UInt8 := bytes.takeWhile (· != 0)

/-- The string in a buffer of fixed size. -/
def quoteString (bytes : List UInt8) : String :=
  String.ofList ('"' :: escapeBytes '"' (beforeNul bytes) ++ ['"'])

example : quoteString [97, 34, 98, 10, 1, 0, 99] = "\"a\\\"b\\n\\001\"" := by decide

end MemoryInspector.Text
