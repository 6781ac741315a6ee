import DisplayLayout.Json.Basic
import DisplayLayout.Numeric.Hexadecimal
import DisplayLayout.Text.Basic

/-!
# Block YAML

Documents written as block-style YAML. Only what the generated configurations
need is used: block maps and sequences, flow sequences of numbers, blocks of
code behind a `!lambda` tag, and quotes around every text that would be read
back as something else.
-/

namespace DisplayLayout.Yaml

/-- A line: its indentation and what stands behind it. -/
structure Row where
  indent : Nat
  body : String
deriving DecidableEq, Repr

/-- The text of a line. -/
def Row.text (r : Row) : String := Text.spaces r.indent ++ r.body

/-- Marks a text as a block of code. -/
def lambdaTag : String := "!lambda "

/-- A text that is written as a block of code. -/
def lambda (code : String) : Json := .string (lambdaTag ++ code)

/-- The code of a text that is marked as such. -/
def code? (s : String) : Option String := (lambdaTag.toList.isPrefixOf? s.toList).map String.ofList

/-- Words that are read as a truth value or as null. -/
def reservedWords : List String :=
  ["true", "false", "yes", "no", "on", "off", "y", "n", "null", "~"]

/-- Characters that mean something at the start of a scalar. -/
def indicators : List Char := "-?:,[]\x7b\x7d#&*!|>'\"%@`".toList

/-- Digits behind a mark for another base. The digits of every base may be hexadecimal. -/
def isBased (lower : List Char) : Bool :=
  match lower with
  | '0' :: b :: digits =>
    (b == 'x' || b == 'o' || b == 'b') && !digits.isEmpty
      && digits.all fun c => c.isDigit || ('a' ≤ c && c ≤ 'f')
  | _ => false

/-- Drops one sign. -/
def dropSign : List Char → List Char
  | '+' :: cs => cs
  | '-' :: cs => cs
  | cs => cs

/-- Whether a text looks like a number. -/
def looksNumeric (s : String) : Bool :=
  let body := dropSign s.toList
  let lower := body.map Char.toLower
  (Numeric.readFloat? (String.ofList body)).isSome || isBased lower
    || lower == ".inf".toList || lower == ".nan".toList

/-- Whether a pair of characters occurs. -/
def hasPair (a b : Char) : List Char → Bool
  | c :: d :: rest => (c == a && d == b) || hasPair a b (d :: rest)
  | _ => false

/-- Printable ASCII, the space included. -/
def isPlainChar (c : Char) : Bool := 0x20 ≤ c.toNat && c.toNat < 0x7F

/-- Whether a scalar without quotes would be read back as anything but the same text. -/
def needsQuotes (s : String) : Bool :=
  let cs := s.toList
  cs.isEmpty || !cs.all isPlainChar || cs.head? == some ' ' || cs.getLast? == some ' '
    || (cs.head?.any indicators.contains) || hasPair ':' ' ' cs || hasPair ' ' '#' cs
    || cs.getLast? == some ':' || reservedWords.contains (Text.lower s) || looksNumeric s

/-- The last hexadecimal digits of a number, in upper case. -/
def hexText (width n : Nat) : List Char := (Numeric.hexDigits width n).map Char.toUpper

/-- One character between double quotes. -/
def escapeChar (c : Char) : List Char :=
  if c = '"' then ['\\', '"']
  else if c = '\\' then ['\\', '\\']
  else if c = '\n' then ['\\', 'n']
  else if c = '\t' then ['\\', 't']
  else if c.toNat < 0x20 ∨ c.toNat = 0x7F then '\\' :: 'x' :: hexText 2 c.toNat
  else if 0x80 ≤ c.toNat then '\\' :: 'U' :: hexText 8 c.toNat
  else [c]

/-- A scalar in double quotes, in ASCII. -/
def quoted (s : String) : String := String.ofList ('"' :: s.toList.flatMap escapeChar ++ ['"'])

/-- A text as a scalar, quoted if it has to be. -/
def textScalar (s : String) : String := if needsQuotes s then quoted s else s

/-- A tree on one line. Only empty containers and sequences of numbers are written so. -/
def inlineText : Json → String
  | .null => "null"
  | .bool b => if b then "true" else "false"
  | .number n => n.text
  | .string s => textScalar s
  | .array items => "[" ++ Text.join ", " (items.map scalarItem) ++ "]"
  | .object _ => "\x7b\x7d"
where
  /-- An item of a sequence on one line. -/
  scalarItem : Json → String
    | .number n => n.text
    | _ => ""

/-- Whether a sequence is written on one line: it is empty or holds numbers only. -/
def isFlow (items : List Json) : Bool := items.all Json.isNumber

/-- The lines of code below a tag; a line of blanks is left empty. -/
def codeRows (indent : Nat) (code : String) : List Row :=
  (Text.lines code).map fun line => if Text.isBlankText line then ⟨0, ""⟩ else ⟨indent, line⟩

/-- Turns the first line of an item into the line with its dash. -/
def dashFirst (indent : Nat) : List Row → List Row
  | [] => []
  | r :: rest => ⟨indent, "- " ++ r.body⟩ :: rest

mutual

/-- The entry of a key: a nested tree goes below it. -/
def entryRows (indent : Nat) (key : String) : Json → List Row
  | .string s => match code? s with
    | some code => ⟨indent, textScalar key ++ ": !lambda |-"⟩ :: codeRows (indent + 2) code
    | none => [⟨indent, textScalar key ++ ": " ++ textScalar s⟩]
  | .object entries =>
    if entries.isEmpty then [⟨indent, textScalar key ++ ": \x7b\x7d"⟩]
    else ⟨indent, textScalar key ++ ":"⟩ :: entriesRows (indent + 2) entries
  | .array items =>
    if isFlow items then [⟨indent, textScalar key ++ ": " ++ inlineText (.array items)⟩]
    else ⟨indent, textScalar key ++ ":"⟩ :: itemsRows (indent + 2) items
  | j => [⟨indent, textScalar key ++ ": " ++ inlineText j⟩]

/-- The entries of a map. -/
def entriesRows (indent : Nat) : List (String × Json) → List Row
  | [] => []
  | (k, j) :: rest => entryRows indent k j ++ entriesRows indent rest

/-- An item of a sequence: a nested tree starts on the line of its dash. -/
def itemRows (indent : Nat) : Json → List Row
  | .string s => match code? s with
    | some code => ⟨indent, "- !lambda |-"⟩ :: codeRows (indent + 2) code
    | none => [⟨indent, "- " ++ textScalar s⟩]
  | .object entries =>
    if entries.isEmpty then [⟨indent, "- \x7b\x7d"⟩]
    else dashFirst indent (entriesRows (indent + 2) entries)
  | .array items =>
    if isFlow items then [⟨indent, "- " ++ inlineText (.array items)⟩]
    else dashFirst indent (itemsRows (indent + 2) items)
  | j => [⟨indent, "- " ++ inlineText j⟩]

/-- The items of a sequence. -/
def itemsRows (indent : Nat) : List Json → List Row
  | [] => []
  | j :: rest => itemRows indent j ++ itemsRows indent rest

end

/-- A map, with braces if it is empty. -/
def mapRows (indent : Nat) (entries : List (String × Json)) : List Row :=
  if entries.isEmpty then [⟨indent, "\x7b\x7d"⟩] else entriesRows indent entries

/-- A sequence, with brackets if it is empty. -/
def sequenceRows (indent : Nat) (items : List Json) : List Row :=
  if items.isEmpty then [⟨indent, "[]"⟩] else itemsRows indent items

/-- A tree of its own. -/
def rows (indent : Nat) : Json → List Row
  | .object entries => mapRows indent entries
  | .array items => sequenceRows indent items
  | j => [⟨indent, inlineText j⟩]

/-- The lines of a tree. -/
def lines (indent : Nat) (j : Json) : List String := (rows indent j).map Row.text

/-- A whole document. -/
def document (j : Json) : String := Text.join "\n" (lines 0 j) ++ "\n"

end DisplayLayout.Yaml
