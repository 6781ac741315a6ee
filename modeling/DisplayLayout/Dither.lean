import DisplayLayout.DrawHelper
import DisplayLayout.Rect

/-!
# Dither masks

The footprints that are masked with a checkerboard where a display cannot show
gray, and the statements of the display lambda that mask them.
-/

namespace DisplayLayout

/-- A footprint. In the rounded ones a band of zero covers the whole shape. -/
inductive DitherShape where
  | rect (box : Rect)
  /-- The outer band of a rectangle. -/
  | rectBand (box : Rect) (band : Int)
  | roundedRect (box : Rect) (r band : Int)
  | circle (cx cy r band : Int)
deriving DecidableEq, Repr

namespace DitherShape

/-- The helper that masks a footprint. -/
def helper : DitherShape → DrawHelper
  | rect _ => .ditherRect
  | rectBand .. => .ditherRect
  | roundedRect .. => .ditherRoundedRect
  | circle .. => .ditherCircle

/-- The width of a band that a box has room for: at least one, at most half the shorter side. -/
def fitBand (box : Rect) (band : Int) : Int :=
  max 1 (min band (max 1 (Int.tdiv box.shortSide 2)))

/-- The strips of the outer band of a box: top and bottom, and if anything is left between
them, left and right. -/
def strips (box : Rect) (band : Int) : List Rect :=
  let band := fitBand box band
  let inner := max 0 (box.h - 2 * band)
  [⟨box.x, box.y, box.w, band⟩, ⟨box.x, box.y + box.h - band, box.w, band⟩]
    ++ if 0 < inner then
      [⟨box.x, box.y + band, band, inner⟩, ⟨box.x + box.w - band, box.y + band, band, inner⟩]
    else []

/-- Masks a rectangle. -/
def maskStatement (box : Rect) : String :=
  s!"apply_grey_dither_mask({box.x}, {box.y}, {box.w}, {box.h});"

/-- The statements that mask a footprint. -/
def statements : DitherShape → List String
  | rect box => [maskStatement box]
  | rectBand box band => (strips box band).map maskStatement
  | roundedRect box r band =>
    [s!"apply_grey_dither_rrect({box.x}, {box.y}, {box.w}, {box.h}, {r}, {band});"]
  | circle cx cy r band => [s!"apply_grey_dither_circle({cx}, {cy}, {r}, {band});"]

end DitherShape

end DisplayLayout
