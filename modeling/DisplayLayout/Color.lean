import DisplayLayout.Numeric.Hexadecimal
import DisplayLayout.Text.Basic

/-!
# Colors

A widget names its colors by tokens. A token is resolved once for a page, and
the color is then written in the notation of the target: a constant of the
display lambda, a hexadecimal literal, or a name of the drawing protocols.
-/

namespace DisplayLayout

/-- A resolved color. -/
inductive Color where
  | white
  | black
  | red
  | green
  | blue
  | yellow
  | orange
  | gray
  /-- Any other color, each part below 256. -/
  | rgb (r g b : Nat)
  /-- Nothing is drawn; a background shows the page. -/
  | transparent
deriving DecidableEq, Repr, Inhabited

namespace Color

/-- Six hexadecimal digits, two for each part. -/
def ofHexDigits? : List Char → Option Color
  | [a, b, c, d, e, f] => do
    let red ← Numeric.readHex? [a, b]
    let green ← Numeric.readHex? [c, d]
    let blue ← Numeric.readHex? [e, f]
    some (.rgb red green blue)
  | _ => none

/-- Digits behind `#` or `0x`. -/
def ofHex? : List Char → Option Color
  | '#' :: digits => ofHexDigits? digits
  | '0' :: 'x' :: digits => ofHexDigits? digits
  | _ => none

/-- The color of a token on a dark or a light page. The theme's own color contrasts with the
page, and an unknown token is black. -/
def resolve (token : String) (dark : Bool) : Color :=
  match Text.lower (Text.trim token) with
  | "theme_auto" => if dark then white else black
  | "" => if dark then white else black
  | "transparent" => transparent
  | "none" => transparent
  | "white" => white
  | "black" => black
  | "red" => red
  | "green" => green
  | "blue" => blue
  | "yellow" => yellow
  | "orange" => orange
  | "gray" => gray
  | "grey" => gray
  | hex => (ofHex? hex.toList).getD black

/-- The three parts of a color. -/
def parts : Color → Nat × Nat × Nat
  | white => (255, 255, 255)
  | black => (0, 0, 0)
  | transparent => (0, 0, 0)
  | red => (255, 0, 0)
  | green => (0, 255, 0)
  | blue => (0, 0, 255)
  | yellow => (255, 255, 0)
  | orange => (255, 165, 0)
  | gray => (160, 160, 160)
  | rgb r g b => (r, g, b)

/-- Whether two parts are nearly the same. -/
def near (a b : Nat) : Bool := (a - b) + (b - a) < 15

/-- The named gray, or a nearly neutral tone of medium brightness. -/
def isGray : Color → Bool
  | gray => true
  | rgb r g b => near r g && near g b && 40 < r && r < 210
  | _ => false

/-- Whether nothing is drawn. -/
def isTransparent (c : Color) : Bool := c == transparent

/-- A transparent color shows the page. -/
def orBackground (c : Color) (dark : Bool) : Color :=
  match c with
  | transparent => if dark then black else white
  | _ => c

/-- Numbers in parentheses. -/
def tripleText (r g b : Nat) : String := s!"({r}, {g}, {b})"

/-- The name of a color, with its parts if it has no other name. -/
def name : Color → String
  | white => "White"
  | black => "Black"
  | red => "Red"
  | green => "Green"
  | blue => "Blue"
  | yellow => "Yellow"
  | orange => "Orange"
  | gray => "Gray"
  | rgb r g b => "Rgb" ++ tripleText r g b
  | transparent => "Transparent"

/-- The notation of the display lambda. An inverted display swaps white and black. -/
def direct (c : Color) (inverted : Bool) : String :=
  match c with
  | white => if inverted then "COLOR_BLACK" else "COLOR_WHITE"
  | transparent => if inverted then "COLOR_BLACK" else "COLOR_WHITE"
  | black => if inverted then "COLOR_WHITE" else "COLOR_BLACK"
  | red => "COLOR_RED"
  | green => "COLOR_GREEN"
  | blue => "COLOR_BLUE"
  | yellow => "COLOR_YELLOW"
  | orange => "COLOR_ORANGE"
  | gray => "COLOR_GRAY"
  | rgb r g b => "Color" ++ tripleText r g b

/-- The six digits of a color, in lower case. -/
def hexDigits (c : Color) : List Char :=
  let (r, g, b) := c.parts
  [r, g, b].flatMap (Numeric.hexDigits 2)

/-- The notation of the widget tree, `0xRRGGBB`. -/
def retained (c : Color) : String := "0x" ++ String.ofList (c.hexDigits.map Char.toUpper)

/-- The notation of the drawing protocols: a name or `#rrggbb`. -/
def protocol : Color → String
  | white => "white"
  | transparent => "white"
  | black => "black"
  | red => "red"
  | green => "green"
  | blue => "blue"
  | yellow => "yellow"
  | orange => "orange"
  | gray => "gray"
  | rgb r g b => "#" ++ String.ofList (rgb r g b).hexDigits

/-- The colors that the display lambda has constants for, with their names. -/
def constants : List (String × Color) :=
  [("COLOR_WHITE", white), ("COLOR_BLACK", black), ("COLOR_RED", red), ("COLOR_GREEN", green),
    ("COLOR_BLUE", blue), ("COLOR_YELLOW", yellow), ("COLOR_ORANGE", orange), ("COLOR_GRAY", gray)]

/-- The declarations of the constants. -/
def constantLines : List String :=
  constants.map fun (name, c) =>
    let (r, g, b) := c.parts
    "const auto " ++ name ++ " = Color" ++ tripleText r g b ++ ";"

/-- Whether a color has to be dithered: a gray on a display that has none. -/
def needsDither (c : Color) (paletteLimited : Bool) : Bool := paletteLimited && c.isGray

end Color

end DisplayLayout
