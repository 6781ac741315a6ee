import DisplayLayout.Keyed
import DisplayLayout.Text.Basic

/-!
# Devices

What the compiler knows about the display that it writes for.
-/

namespace DisplayLayout

/-- What a display can show. -/
inductive DisplayType where
  /-- Black and white only. -/
  | binary
  | grayscale
  | color
deriving DecidableEq, Repr, Inhabited

namespace DisplayType

/-- The type with a name. -/
def ofName? (text : String) : Option DisplayType :=
  match Text.lower (Text.trim text) with
  | "binary" => some binary
  | "monochrome" => some binary
  | "bw" => some binary
  | "grayscale" => some grayscale
  | "greyscale" => some grayscale
  | "color" => some color
  | "colour" => some color
  | "rgb" => some color
  | _ => none

/-- The name of a type. -/
def name : DisplayType → String
  | binary => "binary"
  | grayscale => "grayscale"
  | color => "color"

/-- The pixel format of images for a display. -/
def imageType : DisplayType → String
  | binary => "BINARY"
  | grayscale => "GRAYSCALE"
  | color => "RGB565"

end DisplayType

/-- A device. -/
structure Device where
  name : String := "generic"
  displayType : DisplayType := .binary
  width : Nat := 800
  height : Nat := 480
  /-- White and black are swapped. -/
  invertedColors : Bool := false
  /-- The identifier of the display component. -/
  displayId : String := "main_display"
  features : Keyed Bool := []
deriving DecidableEq, Repr, Inhabited

/-- A display of black and white only has no gray. -/
def Device.paletteLimited (d : Device) : Bool := d.displayType == .binary

end DisplayLayout
