import DisplayLayout.Icon
import DisplayLayout.Identifier
import DisplayLayout.Keyed

/-!
# Fonts

A text font is asked for by family, weight, size and style, and gets an
identifier made of them. The registry holds one font for each identifier, in
the order of the first requests.
-/

namespace DisplayLayout

/-- A text font. -/
structure Font where
  family : String
  weight : Nat
  size : Nat
  italic : Bool
deriving DecidableEq, Repr, Inhabited

namespace Font

/-- The family of a font that names none. -/
def defaultFamily : String := "Roboto"

/-- A font with the defaults filled in: the family, the normal weight, at least one pixel. -/
def of (family : String) (weight size : Nat) (italic : Bool) : Font :=
  let family := Text.trim family
  { family := if family.isEmpty then defaultFamily else family
    weight := if weight = 0 then 400 else weight
    size := max 1 size
    italic }

/-- The identifier of a font. -/
def id (f : Font) : String :=
  "font_" ++ Identifier.slug f.family ++ s!"_{f.weight}_{f.size}" ++ if f.italic then "_italic" else ""

/-- The entry of a font in the font section. -/
def manifestLines (f : Font) : List String :=
  ["  - file:", "      type: gfonts", "      family: " ++ f.family, s!"      weight: {f.weight}"]
    ++ (if f.italic then ["      italic: true"] else [])
    ++ ["    id: " ++ f.id, s!"    size: {f.size}", "    glyphsets:", "      - GF_Latin_Core"]

end Font

/-- The fonts in use, by identifier. -/
abbrev Fonts := Keyed Font

namespace Fonts

/-- Registers a font; an identifier that is known keeps its font. -/
def add (fonts : Fonts) (f : Font) : Fonts := fonts.putNew f.id f

/-- The entries of the font section: text fonts, then icon fonts, and a default font if there
are neither. -/
def manifestLines (fonts : Fonts) (icons : Icons) : List String :=
  (if fonts.isEmpty && icons.isEmpty then (Font.of Font.defaultFamily 400 20 false).manifestLines
    else [])
    ++ fonts.flatMap (fun p => p.2.manifestLines) ++ icons.manifestLines

end Fonts

end DisplayLayout
