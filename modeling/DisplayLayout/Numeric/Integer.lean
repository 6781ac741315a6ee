import DisplayLayout.Text.Basic

/-!
# Integers in text

Decimal numbers as a reader accepts them: an optional sign, then one digit or
more, and nothing else. A number outside the range asked for is refused.
-/

namespace DisplayLayout.Numeric

/-- The value of an ASCII digit. -/
def digitValue (c : Char) : Nat := c.toNat - '0'.toNat

/-- The value of decimal digits, read from the left. -/
def ofDigits (cs : List Char) : Nat := cs.foldl (fun n c => 10 * n + digitValue c) 0

/-- Reads digits only, at least one. -/
def readDigits? (cs : List Char) : Option Nat :=
  if cs.isEmpty then none else if cs.all Char.isDigit then some (ofDigits cs) else none

/-- Reads an integer with an optional sign. -/
def readSigned? : List Char → Option Int
  | '-' :: cs => (readDigits? cs).map fun n => -(n : Int)
  | '+' :: cs => (readDigits? cs).map Int.ofNat
  | cs => (readDigits? cs).map Int.ofNat

/-- Reads a natural number with an optional plus. -/
def readUnsigned? : List Char → Option Nat
  | '+' :: cs => readDigits? cs
  | cs => readDigits? cs

/-- The least and the largest 32-bit integer. -/
def minInt32 : Int := -2147483648
def maxInt32 : Int := 2147483647

/-- The least and the largest 64-bit integer. -/
def minInt64 : Int := -9223372036854775808
def maxInt64 : Int := 9223372036854775807

/-- The largest natural numbers of 32 and of 64 bits. -/
def maxWord32 : Nat := 4294967295
def maxWord64 : Nat := 18446744073709551615

/-- Whether an integer has 32 bits. -/
def isInt32 (n : Int) : Bool := minInt32 ≤ n && n ≤ maxInt32

/-- Whether an integer has 64 bits. -/
def isInt64 (n : Int) : Bool := minInt64 ≤ n && n ≤ maxInt64

/-- Reads a 32-bit integer. -/
def readInt32? (s : String) : Option Int := (readSigned? s.toList).filter isInt32

/-- Reads a 64-bit integer. -/
def readInt64? (s : String) : Option Int := (readSigned? s.toList).filter isInt64

/-- Reads a natural number of 32 bits. -/
def readWord32? (s : String) : Option Nat := (readUnsigned? s.toList).filter (· ≤ maxWord32)

/-- The nearest 32-bit integer. -/
def clampInt32 (n : Int) : Int := max minInt32 (min maxInt32 n)

/-- The nearest 64-bit integer. -/
def clampInt64 (n : Int) : Int := max minInt64 (min maxInt64 n)

end DisplayLayout.Numeric
