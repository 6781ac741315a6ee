import DisplayLayout.Numeric.Hexadecimal
import DisplayLayout.Text.Basic

/-!
# Icons

Glyphs of the icon font, named by their hexadecimal codepoints, and the
registry of the glyphs that each size of the font has to contain.
-/

namespace DisplayLayout

/-- The glyphs in use, by size: sizes ascending, the glyphs of a size sorted. -/
abbrev Icons := List (Nat × List String)

namespace Icon

/-- The leads that are dropped from a code, each at most once and in this order. -/
def leads : List String := ["mdi:", "0x", "0X", "U+", "u+"]

/-- Drops a lead if the text has it. -/
def dropLead (cs : List Char) (lead : String) : List Char := (lead.toList.isPrefixOf? cs).getD cs

/-- A codepoint of four or five digits in upper case. `F0595`, `0xf0595`, `U+F0595` and
`mdi:f0595` all mean the same. -/
def normalize? (code : String) : Option String :=
  let cs := leads.foldl dropLead (Text.trimChars code.toList)
  if (cs.length = 4 ∨ cs.length = 5) ∧ cs.all Numeric.isHexDigit then
    some (String.ofList (cs.map Char.toUpper))
  else none

/-- The escape of a codepoint, with eight digits. -/
def escape (code : String) : String :=
  "\\U" ++ String.ofList (List.replicate (8 - code.length) '0') ++ code

/-- The character of a codepoint; half of a pair is no character. -/
def glyph (code : String) : String :=
  match Numeric.readHex? code.toList with
  | some n => if n.isValidChar then String.singleton (Char.ofNat n) else ""
  | none => ""

/-- The identifier of the icon font of a size. -/
def fontId (size : Nat) : String := s!"font_mdi_{size}"

end Icon

namespace Icons

/-- Inserts a code into a sorted list without repetition. -/
def insertCode (code : String) : List String → List String
  | [] => [code]
  | c :: rest =>
    if code = c then c :: rest
    else if code < c then code :: c :: rest
    else c :: insertCode code rest

/-- Inserts a code at a size. -/
def insertAt (size : Nat) (code : String) : Icons → Icons
  | [] => [(size, [code])]
  | (s, codes) :: rest =>
    if size = s then (s, insertCode code codes) :: rest
    else if size < s then (size, [code]) :: (s, codes) :: rest
    else (s, codes) :: insertAt size code rest

/-- Records a glyph. What is no codepoint is not recorded. -/
def track (icons : Icons) (code : String) (size : Nat) : Icons :=
  match Icon.normalize? code with
  | some code => insertAt (max 1 size) code icons
  | none => icons

/-- Whether a glyph is recorded at a size. -/
def contains (icons : Icons) (code : String) (size : Nat) : Bool :=
  match Icon.normalize? code with
  | some code => icons.any fun (s, codes) => s == size && codes.contains code
  | none => false

/-- The number of glyphs, counted once for each size. -/
def count (icons : Icons) : Nat := icons.foldl (fun n p => n + p.2.length) 0

/-- The entries of the font section. -/
def manifestLines (icons : Icons) : List String :=
  icons.flatMap fun (size, codes) =>
    ["  - file: \"fonts/materialdesignicons-webfont.ttf\"",
      "    id: " ++ Icon.fontId size,
      s!"    size: {size}",
      "    glyphs:"]
    ++ codes.map fun code => "      - \"" ++ Icon.escape code ++ "\""

end Icons

end DisplayLayout
