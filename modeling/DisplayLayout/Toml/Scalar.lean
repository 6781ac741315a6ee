import DisplayLayout.Numeric.Hexadecimal
import DisplayLayout.Numeric.Integer

/-!
# Scalars of configuration files

Strings in their four forms, numbers in their four bases, dates and times.
Every reader returns what it read and the rest of the text.
-/

namespace DisplayLayout.Toml

/-- Characters that may not stand in a string or a comment. The tab is no such character. -/
def isControl (c : Char) : Bool := (c.toNat < 0x20 && c != '\t') || c.toNat == 0x7F

/-- Blanks within a line. -/
def isBlank (c : Char) : Bool := c == ' ' || c == '\t'

/-- Drops a line break. -/
def lineBreak? : List Char → Option (List Char)
  | '\n' :: rest => some rest
  | '\r' :: '\n' :: rest => some rest
  | _ => none

/-- The value of a digit of a base up to sixteen. -/
def digitValue? (base : Nat) (c : Char) : Option Nat :=
  (Numeric.hexValue? c).filter (· < base)

/-- The character with a number in hexadecimal digits, unless there is none. -/
def charOfHex? (ds : List Char) : Option Char := do
  let n ← Numeric.readHex? ds
  if n.isValidChar then some (Char.ofNat n) else none

/-- The character of an escape with one letter. -/
def escape? (c : Char) : Option Char :=
  match c with
  | 'b' => some (Char.ofNat 8)
  | 't' => some '\t'
  | 'n' => some '\n'
  | 'f' => some (Char.ofNat 12)
  | 'r' => some '\r'
  | 'e' => some (Char.ofNat 27)
  | '"' => some '"'
  | '\\' => some '\\'
  | _ => none

/-- A text that is being read, and the rest. -/
abbrev Scanned := Option (List Char × List Char)

/-- Puts a character before a text that is still being read. -/
def consScanned (c : Option Char) (r : Scanned) : Scanned := do
  let c ← c
  let (cs, rest) ← r
  some (c :: cs, rest)

/-- A string on one line, behind its quote. -/
def scanBasic : List Char → Scanned
  | [] => none
  | '"' :: rest => some ([], rest)
  | '\\' :: 'x' :: a :: b :: rest => consScanned (charOfHex? [a, b]) (scanBasic rest)
  | '\\' :: 'u' :: a :: b :: c :: d :: rest =>
    consScanned (charOfHex? [a, b, c, d]) (scanBasic rest)
  | '\\' :: 'U' :: a :: b :: c :: d :: e :: f :: g :: h :: rest =>
    consScanned (charOfHex? [a, b, c, d, e, f, g, h]) (scanBasic rest)
  | '\\' :: c :: rest => consScanned (escape? c) (scanBasic rest)
  | c :: rest => if isControl c then none else consScanned (some c) (scanBasic rest)

/-- A string without escapes on one line, behind its quote. -/
def scanLiteral : List Char → Scanned
  | [] => none
  | '\'' :: rest => some ([], rest)
  | c :: rest => if isControl c then none else consScanned (some c) (scanLiteral rest)

/-- Whether nothing but blanks is left on a line. -/
def endsLine (cs : List Char) : Bool := (lineBreak? (cs.dropWhile isBlank)).isSome

/-- A string over several lines, behind its quotes. A backslash at the end of a line joins it
with the next text; `joining` says that this is being looked for. -/
def scanLongBasic (joining : Bool) : List Char → Scanned
  | [] => none
  | '"' :: '"' :: '"' :: '"' :: '"' :: rest => some (['"', '"'], rest)
  | '"' :: '"' :: '"' :: '"' :: rest => some (['"'], rest)
  | '"' :: '"' :: '"' :: rest => some ([], rest)
  | '\\' :: 'x' :: a :: b :: rest => consScanned (charOfHex? [a, b]) (scanLongBasic false rest)
  | '\\' :: 'u' :: a :: b :: c :: d :: rest =>
    consScanned (charOfHex? [a, b, c, d]) (scanLongBasic false rest)
  | '\\' :: 'U' :: a :: b :: c :: d :: e :: f :: g :: h :: rest =>
    consScanned (charOfHex? [a, b, c, d, e, f, g, h]) (scanLongBasic false rest)
  | '\\' :: c :: rest =>
    if endsLine (c :: rest) then scanLongBasic true (c :: rest)
    else consScanned (escape? c) (scanLongBasic false rest)
  | '\r' :: '\n' :: rest =>
    if joining then scanLongBasic true rest else consScanned (some '\n') (scanLongBasic false rest)
  | c :: rest =>
    if joining && (isBlank c || c == '\n') then scanLongBasic true rest
    else if isControl c && c != '\n' then none
    else consScanned (some c) (scanLongBasic false rest)

/-- A string without escapes over several lines, behind its quotes. -/
def scanLongLiteral : List Char → Scanned
  | [] => none
  | '\'' :: '\'' :: '\'' :: '\'' :: '\'' :: rest => some (['\'', '\''], rest)
  | '\'' :: '\'' :: '\'' :: '\'' :: rest => some (['\''], rest)
  | '\'' :: '\'' :: '\'' :: rest => some ([], rest)
  | '\r' :: '\n' :: rest => consScanned (some '\n') (scanLongLiteral rest)
  | c :: rest =>
    if isControl c && c != '\n' then none else consScanned (some c) (scanLongLiteral rest)

/-- Drops a line break right behind the opening quotes. -/
def dropFirstBreak (cs : List Char) : List Char := (lineBreak? cs).getD cs

/-- A string in any of its forms. -/
def scanString? : List Char → Scanned
  | '"' :: '"' :: '"' :: rest => scanLongBasic false (dropFirstBreak rest)
  | '\'' :: '\'' :: '\'' :: rest => scanLongLiteral (dropFirstBreak rest)
  | '"' :: rest => scanBasic rest
  | '\'' :: rest => scanLiteral rest
  | _ => none

/-- Characters of a number, a date or a word. -/
def isScalarChar (c : Char) : Bool := c.isAlphanum || c == '+' || c == '-' || c == '.' || c == '_' || c == ':'

/-- The value of digits of a base, with single underscores between digits. -/
def readGrouped? (base : Nat) (cs : List Char) : Option Nat :=
  go cs none
where
  /-- Reads on; the value so far is there when a digit has just been read. -/
  go : List Char → Option Nat → Option Nat
    | [], n => n
    | '_' :: d :: rest, some n => (digitValue? base d).bind fun v => go rest (some (base * n + v))
    | d :: rest, n => (digitValue? base d).bind fun v => go rest (some (base * n.getD 0 + v))

/-- A decimal integer without sign: no zero at the front of more digits. -/
def readDecimal? (cs : List Char) : Option Nat :=
  match cs with
  | '0' :: _ :: _ => none
  | _ => readGrouped? 10 cs

/-- An integer in any base; only decimal ones have a sign. -/
def readInteger? (cs : List Char) : Option Int :=
  match cs with
  | '0' :: 'x' :: ds => (readGrouped? 16 ds).map Int.ofNat
  | '0' :: 'o' :: ds => (readGrouped? 8 ds).map Int.ofNat
  | '0' :: 'b' :: ds => (readGrouped? 2 ds).map Int.ofNat
  | '+' :: ds => (readDecimal? ds).map Int.ofNat
  | '-' :: ds => (readDecimal? ds).map fun n => -(n : Int)
  | ds => (readDecimal? ds).map Int.ofNat

/-- Whether an exponent follows, or nothing. -/
def isExponent : List Char → Bool
  | [] => true
  | c :: rest =>
    (c == 'e' || c == 'E') && match rest with
      | '+' :: ds => (readGrouped? 10 ds).isSome
      | '-' :: ds => (readGrouped? 10 ds).isSome
      | ds => (readGrouped? 10 ds).isSome

/-- Digits of a decimal number and their separators. -/
def isGroupedDigit (c : Char) : Bool := c.isDigit || c == '_'

/-- Whether a text is a number with a fraction or an exponent, or one of the words for
infinity and for no number. -/
def isFloat (cs : List Char) : Bool :=
  let body := match cs with
    | '+' :: r => r
    | '-' :: r => r
    | r => r
  if body == "inf".toList || body == "nan".toList then true
  else
    let rest := body.dropWhile isGroupedDigit
    (readDecimal? (body.takeWhile isGroupedDigit)).isSome && match rest with
      | '.' :: r =>
        (readGrouped? 10 (r.takeWhile isGroupedDigit)).isSome
          && isExponent (r.dropWhile isGroupedDigit)
      | _ => !rest.isEmpty && isExponent rest

/-- Two digits with a value in a range. -/
def isPair (low high : Nat) (a b : Char) : Bool :=
  a.isDigit && b.isDigit &&
    let n := Numeric.ofDigits [a, b]
    low ≤ n && n ≤ high

/-- The number of days of a month. -/
def daysIn (year month : Nat) : Nat :=
  if month = 2 then
    if (year % 4 = 0 ∧ year % 100 ≠ 0) ∨ year % 400 = 0 then 29 else 28
  else if month = 4 ∨ month = 6 ∨ month = 9 ∨ month = 11 then 30 else 31

/-- A date at the front of a text; the rest. -/
def dropDate? : List Char → Option (List Char)
  | y1 :: y2 :: y3 :: y4 :: '-' :: m1 :: m2 :: '-' :: d1 :: d2 :: rest =>
    let year := Numeric.ofDigits [y1, y2, y3, y4]
    let month := Numeric.ofDigits [m1, m2]
    if [y1, y2, y3, y4].all Char.isDigit && isPair 1 12 m1 m2 && isPair 1 (daysIn year month) d1 d2
    then some rest else none
  | _ => none

/-- Seconds with a fraction, if there are any; the rest. -/
def dropSeconds? : List Char → Option (List Char)
  | ':' :: s1 :: s2 :: rest =>
    if isPair 0 60 s1 s2 then
      match rest with
      | '.' :: fraction =>
        if (fraction.takeWhile Char.isDigit).isEmpty then none
        else some (fraction.dropWhile Char.isDigit)
      | _ => some rest
    else none
  | ':' :: _ => none
  | rest => some rest

/-- A time of day at the front of a text; the rest. -/
def dropTime? : List Char → Option (List Char)
  | h1 :: h2 :: ':' :: m1 :: m2 :: rest =>
    if isPair 0 23 h1 h2 && isPair 0 59 m1 m2 then dropSeconds? rest else none
  | _ => none

/-- Whether a text is a distance from universal time, or empty. -/
def isOffset : List Char → Bool
  | [] => true
  | ['Z'] => true
  | ['z'] => true
  | [sign, h1, h2, ':', m1, m2] =>
    (sign == '+' || sign == '-') && isPair 0 23 h1 h2 && isPair 0 59 m1 m2
  | _ => false

/-- Whether a text is a date, a time of day, or both. -/
def isMoment (cs : List Char) : Bool :=
  match dropTime? cs with
  | some rest => rest.isEmpty
  | none => match dropDate? cs with
    | none => false
    | some [] => true
    | some (t :: rest) =>
      (t == 'T' || t == 't' || t == ' ') && ((dropTime? rest).map isOffset).getD false

end DisplayLayout.Toml
