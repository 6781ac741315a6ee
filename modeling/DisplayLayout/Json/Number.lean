import DisplayLayout.Json.Basic

/-!
# Numbers in document text

A number is read digit by digit into a significand of 64 bits and a power of
ten. Digits that no longer fit are dropped, and the power makes up for those
before the point. The value is the significand, rounded, and multiplied or
divided by the power, rounded again.
-/

namespace DisplayLayout.Json

open Numeric (Binary64 digitValue maxWord64)

/-- A number while it is read: its digits so far as a significand times a power of ten. -/
structure Parts where
  significand : Nat
  power : Int
deriving DecidableEq, Repr

/-- Whether another digit still fits. -/
def Parts.fits (p : Parts) (digit : Nat) : Bool := 10 * p.significand + digit ≤ maxWord64

/-- Takes digits before the point. After the first one that does not fit, all others only
raise the power. The answer also says whether all of them fitted. -/
def Parts.whole (p : Parts) : List Char → Parts × Bool
  | [] => (p, true)
  | c :: cs =>
    if p.fits (digitValue c) then whole ⟨10 * p.significand + digitValue c, p.power⟩ cs
    else (⟨p.significand, p.power + (c :: cs).length⟩, false)

/-- Takes digits behind the point, up to the first one that does not fit. -/
def Parts.fraction (p : Parts) : List Char → Parts
  | [] => p
  | c :: cs =>
    if p.fits (digitValue c) then fraction ⟨10 * p.significand + digitValue c, p.power - 1⟩ cs
    else p

/-- A power of ten of the format. -/
def powerOfTen (n : Nat) : Binary64 := Binary64.ofDecimal false 1 n

/-- The value of a significand times a power of ten; none when it is too large. Dividing
goes in steps of at most `10 ^ 308`, and after two of them nothing is left. -/
def Parts.value? (negative : Bool) (p : Parts) : Option Binary64 :=
  let f := Binary64.ofRatio negative p.significand 1
  if p.significand = 0 then some f
  else if 308 < p.power then none
  else if 0 ≤ p.power then
    let x := f.mul (powerOfTen p.power.toNat)
    if x.isFinite then some x else none
  else if -308 ≤ p.power then some (f.div (powerOfTen (-p.power).toNat))
  else
    let g := f.div (powerOfTen 308)
    if -616 ≤ p.power then some (g.div (powerOfTen (-p.power - 308).toNat))
    else some (Binary64.zero negative)

/-- The largest exponent that is read as a number. -/
def maxExponent : Nat := 2147483647

/-- Applies an explicit exponent and takes the value. An exponent beyond 32 bits leaves zero,
or nothing when it would make a number too large. -/
def Parts.valueAt? (negative : Bool) (p : Parts) (minus : Bool) (exponent : Nat) : Option Binary64 :=
  if maxExponent < exponent then
    if p.significand ≠ 0 ∧ !minus then none else some (Binary64.zero negative)
  else value? negative ⟨p.significand, if minus then p.power - exponent else p.power + exponent⟩

/-- The pieces of a number as it is written. -/
structure Written where
  negative : Bool
  whole : List Char
  fraction : Option (List Char)
  exponent : Option (Bool × List Char)
deriving DecidableEq, Repr

/-- Splits off a minus. -/
def splitMinus : List Char → Bool × List Char
  | '-' :: rest => (true, rest)
  | rest => (false, rest)

/-- Splits off a sign of either kind; says whether it is a minus. -/
def splitSign : List Char → Bool × List Char
  | '+' :: rest => (false, rest)
  | rest => splitMinus rest

/-- Splits off an exponent. Its mark has to be followed by a digit. -/
def scanExponent? : List Char → Option (Option (Bool × List Char) × List Char)
  | [] => some (none, [])
  | c :: rest =>
    if c = 'e' ∨ c = 'E' then
      let (minus, rest) := splitSign rest
      let digits := rest.takeWhile Char.isDigit
      if digits.isEmpty then none else some (some (minus, digits), rest.dropWhile Char.isDigit)
    else some (none, c :: rest)

/-- Splits off a fraction. Its point has to be followed by a digit. -/
def scanFraction? : List Char → Option (Option (List Char) × List Char)
  | '.' :: rest =>
    let digits := rest.takeWhile Char.isDigit
    if digits.isEmpty then none else some (some digits, rest.dropWhile Char.isDigit)
  | rest => some (none, rest)

/-- Whether digits may stand before the point: at least one, and a zero only alone. -/
def isWhole (digits : List Char) : Bool :=
  !digits.isEmpty && !(digits.head? == some '0' && 1 < digits.length)

/-- Splits off a number. -/
def scanNumber? (cs : List Char) : Option (Written × List Char) :=
  let (negative, rest) := splitMinus cs
  let whole := rest.takeWhile Char.isDigit
  if isWhole whole then
    (scanFraction? (rest.dropWhile Char.isDigit)).bind fun (fraction, rest) =>
      (scanExponent? rest).map fun (exponent, rest) => (⟨negative, whole, fraction, exponent⟩, rest)
  else none

/-! ### Numbers shorten the text -/

theorem splitMinus_length (cs : List Char) : (splitMinus cs).2.length ≤ cs.length := by
  unfold splitMinus
  split
  · exact Nat.le_succ _
  · exact Nat.le_refl _

theorem splitSign_length (cs : List Char) : (splitSign cs).2.length ≤ cs.length := by
  unfold splitSign
  split
  · exact Nat.le_succ _
  · exact splitMinus_length _

theorem length_dropDigits_lt {cs : List Char} (h : isWhole (cs.takeWhile Char.isDigit) = true) :
    (cs.dropWhile Char.isDigit).length < cs.length := by
  have parts := congrArg List.length (List.takeWhile_append_dropWhile (p := Char.isDigit) (l := cs))
  rw [List.length_append] at parts
  have first : 0 < (cs.takeWhile Char.isDigit).length := by
    cases eq : cs.takeWhile Char.isDigit with
    | nil => rw [eq] at h; cases h
    | cons => exact Nat.succ_pos _
  omega

/-- What follows an exponent is no longer than the exponent with what follows it. -/
theorem scanExponent?_length {cs more : List Char} {e : Option (Bool × List Char)}
    (h : scanExponent? cs = some (e, more)) : more.length ≤ cs.length := by
  unfold scanExponent? at h
  split at h
  · cases h; exact Nat.le_refl _
  · split at h
    · dsimp only at h
      split at h <;> cases h
      exact Nat.le_succ_of_le (Nat.le_trans (List.dropWhile_sublist _).length_le (splitSign_length _))
    · cases h; exact Nat.le_refl _

/-- What follows a fraction is no longer than the fraction with what follows it. -/
theorem scanFraction?_length {cs more : List Char} {f : Option (List Char)}
    (h : scanFraction? cs = some (f, more)) : more.length ≤ cs.length := by
  unfold scanFraction? at h
  split at h
  · dsimp only at h
    split at h <;> cases h
    exact Nat.le_succ_of_le (List.dropWhile_sublist _).length_le
  · cases h; exact Nat.le_refl _

/-- What follows a number is shorter than the number with what follows it. -/
theorem scanNumber?_length {cs more : List Char} {w : Written}
    (h : scanNumber? cs = some (w, more)) : more.length < cs.length := by
  unfold scanNumber? at h
  dsimp only at h
  split at h
  · rename_i whole
    obtain ⟨⟨f, rest⟩, hf, h⟩ := Option.bind_eq_some_iff.1 h
    obtain ⟨⟨e, rest'⟩, he, h⟩ := Option.map_eq_some_iff.1 h
    cases h
    have := scanFraction?_length hf
    have := scanExponent?_length he
    have := length_dropDigits_lt whole
    have := splitMinus_length cs
    dsimp only at *
    omega
  · cases h

/-- The number that was written. Without fraction and exponent it is an integer if 64 bits
hold it; minus zero is no integer. -/
def Written.number? (w : Written) : Option Number :=
  let (p, fits) := Parts.whole ⟨0, 0⟩ w.whole
  match w.fraction, w.exponent with
  | none, none =>
    if fits then
      if !w.negative then some (.int p.significand)
      else if 0 < p.significand ∧ (p.significand : Int) ≤ -Numeric.minInt64 then
        some (.int (-p.significand))
      else some (.float (Binary64.ofRatio true p.significand 1))
    else (p.value? w.negative).map .float
  | fraction, exponent =>
    let p := p.fraction (fraction.getD [])
    match exponent with
    | none => (p.value? w.negative).map .float
    | some (minus, digits) => (p.valueAt? w.negative minus (Numeric.ofDigits digits)).map .float

end DisplayLayout.Json
