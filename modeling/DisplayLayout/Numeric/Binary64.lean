/-!
# Binary floating point

The numbers of the 64-bit binary format, held exactly as sign, mantissa and
exponent. A result that the format cannot hold is rounded to the nearest
number, a tie to the even mantissa.
-/

namespace DisplayLayout.Numeric

/-- A number of the format. A finite one is `± mantissa · 2 ^ exponent`. -/
inductive Binary64 where
  | nan
  | infinite (negative : Bool)
  | finite (negative : Bool) (mantissa : Nat) (exponent : Int)
deriving DecidableEq, Repr, Inhabited

/-- Rounds a quotient to the nearest integer, a tie to the even one. -/
def roundHalfEven (num den : Nat) : Nat :=
  let q := num / den
  let r := num % den
  if 2 * r > den ∨ (2 * r = den ∧ q % 2 = 1) then q + 1 else q

namespace Binary64

/-- The least exponent, that of the subnormal numbers. -/
def minExponent : Int := -1074

/-- The largest exponent. -/
def maxExponent : Int := 971

/-- The first mantissa of 53 bits. -/
def fullMantissa : Nat := Nat.pow 2 52

/-- Zero with a sign. -/
def zero (negative : Bool) : Binary64 := finite negative 0 minExponent

/-- A quotient times a power of two, as a quotient. -/
def scale (num den : Nat) (exponent : Int) : Nat × Nat :=
  if 0 ≤ exponent then (num * Nat.pow 2 exponent.toNat, den) else (num, den * Nat.pow 2 (-exponent).toNat)

/-- The exponent at which a quotient has a mantissa of 53 bits, or the least one. -/
def exponentOf (num den : Nat) : Int :=
  let e := (num.log2 : Int) - den.log2 - 52
  let (n, d) := scale num den (-e)
  max minExponent (if n < fullMantissa * d then e - 1 else e)

/-- The number nearest to a quotient. -/
def ofRatio (negative : Bool) (num den : Nat) : Binary64 :=
  if num = 0 then zero negative
  else
    let e := exponentOf num den
    let (n, d) := scale num den (-e)
    let m := roundHalfEven n d
    let (m, e) := if m = 2 * fullMantissa then (fullMantissa, e + 1) else (m, e)
    if maxExponent < e then infinite negative else finite negative m e

/-- The number nearest to an integer. -/
def ofInt (n : Int) : Binary64 := ofRatio (decide (n < 0)) n.natAbs 1

/-- The number nearest to `± digits · 10 ^ exponent`. -/
def ofDecimal (negative : Bool) (digits : Nat) (exponent : Int) : Binary64 :=
  if digits = 0 then zero negative
  else
    let size := (Nat.toDigits 10 digits).length + exponent
    if 310 < size then infinite negative
    else if size < -323 then zero negative
    else if 0 ≤ exponent then ofRatio negative (digits * Nat.pow 10 exponent.toNat) 1
    else ofRatio negative digits (Nat.pow 10 (-exponent).toNat)

/-- The sign. -/
def isNegative : Binary64 → Bool
  | nan => false
  | infinite negative => negative
  | finite negative _ _ => negative

/-- Neither infinite nor a NaN. -/
def isFinite : Binary64 → Bool
  | finite .. => true
  | _ => false

/-- The magnitude of a finite number as a quotient. -/
def magnitude (mantissa : Nat) (exponent : Int) : Nat × Nat := scale mantissa 1 exponent

/-- The product of finite numbers, rounded; anything else is a NaN. -/
def mul : Binary64 → Binary64 → Binary64
  | finite s m e, finite s' m' e' =>
    let (n, d) := scale (m * m') 1 (e + e')
    ofRatio (s != s') n d
  | _, _ => nan

/-- The quotient of finite numbers, rounded; anything else, division by zero
included, is a NaN. -/
def div : Binary64 → Binary64 → Binary64
  | finite s m e, finite s' m' e' =>
    if m' = 0 then nan
    else
      let (n, d) := scale m m' (e - e')
      ofRatio (s != s') n d
  | _, _ => nan

/-- The largest integer that is not larger, for a finite number. -/
def floor? : Binary64 → Option Int
  | finite s m e =>
    let (n, d) := magnitude m e
    some (Int.fdiv (if s then -(n : Int) else n) d)
  | _ => none

/-- The nearest integer within bounds, a half away from zero; zero for a NaN. -/
def roundWithin (lo hi : Int) : Binary64 → Int
  | nan => 0
  | infinite negative => if negative then lo else hi
  | finite negative m e =>
    let (n, d) := magnitude m e
    let r := (2 * n + d) / (2 * d)
    max lo (min hi (if negative then -(r : Int) else r))

end Binary64

end DisplayLayout.Numeric
