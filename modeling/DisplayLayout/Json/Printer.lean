import DisplayLayout.Json.Basic
import DisplayLayout.Numeric.Hexadecimal
import DisplayLayout.Text.Basic

/-!
# Document text

The compact form of a document, and the indented form that is written to files.
-/

namespace DisplayLayout.Json

/-- One character between quotes. -/
def escapeChar (c : Char) : List Char :=
  if c = '"' then ['\\', '"']
  else if c = '\\' then ['\\', '\\']
  else if c = '\n' then ['\\', 'n']
  else if c = '\r' then ['\\', 'r']
  else if c = '\t' then ['\\', 't']
  else if c.toNat = 8 then ['\\', 'b']
  else if c.toNat = 12 then ['\\', 'f']
  else if c.toNat < 0x20 then '\\' :: 'u' :: Numeric.hexDigits 4 c.toNat
  else [c]

/-- A text in quotes. -/
def quoted (s : String) : String := String.ofList ('"' :: s.toList.flatMap escapeChar ++ ['"'])

/-- The text of a truth value. -/
def boolText (b : Bool) : String := if b then "true" else "false"

/-- Texts between brackets on one line. -/
def bracketed (opening closing : String) (parts : List String) : String :=
  opening ++ Text.join "," parts ++ closing

mutual

/-- The form without any blanks. -/
def compact : Json → String
  | .null => "null"
  | .bool b => boolText b
  | .number n => n.text
  | .string s => quoted s
  | .array items => bracketed "[" "]" (compactItems items)
  | .object entries => bracketed "\x7b" "\x7d" (compactEntries entries)

/-- The compact forms of items. -/
def compactItems : List Json → List String
  | [] => []
  | j :: rest => compact j :: compactItems rest

/-- The compact forms of entries. -/
def compactEntries : List (String × Json) → List String
  | [] => []
  | (k, j) :: rest => (quoted k ++ ":" ++ compact j) :: compactEntries rest

end

/-- Parts on lines of their own, indented below the brackets; brackets alone if there are none. -/
def block (indent : Nat) (opening closing : String) (parts : List String) : String :=
  if parts.isEmpty then opening ++ closing
  else
    opening ++ "\n"
      ++ Text.join ",\n" (parts.map fun p => Text.spaces (indent + 2) ++ p)
      ++ "\n" ++ Text.spaces indent ++ closing

mutual

/-- The form with one item or entry a line, each level indented by two spaces. -/
def prettyAt (indent : Nat) : Json → String
  | .null => "null"
  | .bool b => boolText b
  | .number n => n.text
  | .string s => quoted s
  | .array items => block indent "[" "]" (prettyItems (indent + 2) items)
  | .object entries => block indent "\x7b" "\x7d" (prettyEntries (indent + 2) entries)

/-- The indented forms of items. -/
def prettyItems (indent : Nat) : List Json → List String
  | [] => []
  | j :: rest => prettyAt indent j :: prettyItems indent rest

/-- The indented forms of entries. -/
def prettyEntries (indent : Nat) : List (String × Json) → List String
  | [] => []
  | (k, j) :: rest => (quoted k ++ ": " ++ prettyAt indent j) :: prettyEntries indent rest

end

/-- The indented form of a whole document. -/
def pretty (j : Json) : String := prettyAt 0 j

end DisplayLayout.Json
