import DisplayLayout.Numeric.Binary64

/-!
# Shortest decimal digits

The fewest decimal digits that read back as a given binary number and, of
those, the ones nearest to it. How they are laid out is a `Layout`.
-/

namespace DisplayLayout.Numeric

/-- Decimal digits of a positive number, without trailing zeros; `point` is the
power of ten of the first digit. -/
structure Digits where
  digits : List Char
  point : Int
deriving DecidableEq, Repr

/-- Which of two equally near digit sequences is taken. -/
inductive Tie where
  | toEven
  | up
deriving DecidableEq, Repr

/-- The decimal digits of a natural number. -/
def decimalDigits (n : Nat) : List Char := Nat.toDigits 10 n

/-- The power of ten of the first digit of a positive quotient. -/
def leadingPower (num den : Nat) : Int :=
  if den ≤ num then ((decimalDigits (num / den)).length : Int) - 1
  else -((decimalDigits ((den - 1) / num)).length : Int)

/-- The positive numbers that round to `mantissa · 2 ^ exponent`, as quotients
over one denominator; the ends belong to them iff the mantissa is even. -/
structure Interval where
  low : Nat
  value : Nat
  high : Nat
  den : Nat
  closed : Bool

/-- The interval of a positive number. Below a power of two it is half as wide. -/
def Interval.of (mantissa : Nat) (exponent : Int) : Interval :=
  let below :=
    if mantissa = Binary64.fullMantissa ∧ Binary64.minExponent < exponent then 1 else 2
  let unit := Binary64.scale 1 1 (exponent - 2)
  { low := (4 * mantissa - below) * unit.1
    value := 4 * mantissa * unit.1
    high := (4 * mantissa + 2) * unit.1
    den := unit.2
    closed := mantissa % 2 == 0 }

/-- Whether `num / scale` lies in the interval. -/
def Interval.contains (i : Interval) (num scale : Nat) : Bool :=
  let x := num * i.den
  if i.closed then i.low * scale ≤ x && x ≤ i.high * scale
  else i.low * scale < x && x < i.high * scale

/-- Leaves out the zeros at the end. -/
def trimZeros (ds : List Char) : List Char := (ds.reverse.dropWhile (· == '0')).reverse

/-- The point of the grid of multiples of `10 ^ power` that lies in the interval
and is nearest to the value, as a multiple. -/
def nearestOnGrid? (tie : Tie) (i : Interval) (power : Int) : Option Nat :=
  let up := if 0 ≤ power then Nat.pow 10 power.toNat else 1
  let down := if 0 ≤ power then 1 else Nat.pow 10 (-power).toNat
  let a := i.value * down / (i.den * up)
  let rest := i.value * down % (i.den * up)
  let takeUpper := 2 * rest > i.den * up || (2 * rest == i.den * up && (tie == .up || a % 2 == 1))
  let lower := i.contains (a * up) down
  let upper := i.contains ((a + 1) * up) down
  if lower && upper then some (if takeUpper then a + 1 else a)
  else if lower then some a
  else if upper then some (a + 1)
  else none

/-- Tries grids of more and more digits, `left` of them. -/
def searchGrids (tie : Tie) (i : Interval) (point : Int) : (count left : Nat) → Digits
  | count, 0 =>
    ⟨trimZeros (decimalDigits (i.value / i.den)), point - count⟩
  | count, left + 1 =>
    let power := point - count
    match nearestOnGrid? tie i power with
    | some n =>
      let ds := decimalDigits n
      ⟨trimZeros ds, power + ds.length - 1⟩
    | none => searchGrids tie i point (count + 1) left

/-- The shortest digits of a positive number. Seventeen always suffice. -/
def shortest (tie : Tie) (mantissa : Nat) (exponent : Int) : Digits :=
  let i := Interval.of mantissa exponent
  searchGrids tie i (leadingPower i.value i.den) 0 17

/-- How digits become text. -/
structure Layout where
  tie : Tie
  /-- Powers of ten of the first digit at which the notation stays positional. -/
  positional : Int → Bool
  /-- Whether an integer is written with a fraction of zero. -/
  pointZero : Bool

/-- `n` zeros. -/
def zeros (n : Nat) : List Char := List.replicate n '0'

/-- Digits around a decimal point. -/
def positionalText (pointZero : Bool) (d : Digits) : List Char :=
  if d.point < 0 then '0' :: '.' :: zeros (-d.point - 1).toNat ++ d.digits
  else
    let whole := d.point.toNat + 1
    if d.digits.length ≤ whole then
      d.digits ++ zeros (whole - d.digits.length) ++ (if pointZero then ['.', '0'] else [])
    else d.digits.take whole ++ '.' :: d.digits.drop whole

/-- One digit, the others behind a point, and the exponent with its sign. -/
def scientificText (d : Digits) : List Char :=
  let fraction := d.digits.drop 1
  d.digits.take 1 ++ (if fraction.isEmpty then [] else '.' :: fraction)
    ++ 'e' :: (if d.point < 0 then '-' else '+') :: decimalDigits d.point.natAbs

/-- The text of a number in a layout. -/
def Layout.render (layout : Layout) : Binary64 → String
  | .nan => "NaN"
  | .infinite negative => if negative then "-inf" else "inf"
  | .finite negative m e =>
    let body :=
      if m = 0 then positionalText layout.pointZero ⟨['0'], 0⟩
      else
        let d := shortest layout.tie m e
        if layout.positional d.point then positionalText layout.pointZero d else scientificText d
    String.ofList (if negative then '-' :: body else body)

/-- Document numbers are positional from `0.00001` to below `1e+16` and always show that
they are no integers. -/
def documentLayout : Layout := ⟨.toEven, fun p => -5 ≤ p && p ≤ 15, true⟩

/-- Numbers in generated code have no exponent, and no fraction unless they need one. -/
def plainLayout : Layout := ⟨.up, fun _ => true, false⟩

/-- A number as a document writes it. -/
def documentText (x : Binary64) : String := documentLayout.render x

/-- A number as generated code writes it. -/
def plainText (x : Binary64) : String := plainLayout.render x

end DisplayLayout.Numeric
