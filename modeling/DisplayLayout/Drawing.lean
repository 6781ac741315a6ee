import DisplayLayout.Color
import DisplayLayout.Device
import DisplayLayout.Dither
import DisplayLayout.Event
import DisplayLayout.Font

/-!
# Drawings

What a widget contributes to a run: the fonts and glyphs it uses, the helpers
it calls, and the statements that draw it. Contributions are put together with
`++`, and none of them depends on what came before.
-/

namespace DisplayLayout

/-- A glyph at a size. -/
structure Glyph where
  code : String
  size : Nat
deriving DecidableEq, Repr, Inhabited

/-- A contribution to a run. -/
structure Drawing where
  fonts : List Font := []
  glyphs : List Glyph := []
  helpers : List DrawHelper := []
  lines : List String := []
  events : List Event := []
deriving DecidableEq, Repr, Inhabited

namespace Drawing

/-- No contribution. -/
def empty : Drawing := {}

instance : Append Drawing where
  append a b :=
    ⟨a.fonts ++ b.fonts, a.glyphs ++ b.glyphs, a.helpers ++ b.helpers, a.lines ++ b.lines,
      a.events ++ b.events⟩

/-- A font in use. -/
def font (f : Font) : Drawing := { fonts := [f] }

/-- A glyph in use. -/
def glyph (code : String) (size : Nat) : Drawing := { glyphs := [⟨code, size⟩] }

/-- Glyphs in use at one size. -/
def glyphsAt (codes : List String) (size : Nat) : Drawing := { glyphs := codes.map (⟨·, size⟩) }

/-- A statement. -/
def line (s : String) : Drawing := { lines := [s] }

/-- Statements. -/
def ofLines (rows : List String) : Drawing := { lines := rows }

/-- A helper that is called. -/
def helper (h : DrawHelper) : Drawing := { helpers := [h] }

/-- Something to report. -/
def event (e : Event) : Drawing := { events := [e] }

/-- A dither mask and the helper that it calls. -/
def dither (s : DitherShape) : Drawing := { helpers := [s.helper], lines := s.statements }

/-- A contribution that is made only in one case. -/
def when (b : Bool) (d : Drawing) : Drawing := if b then d else {}

end Drawing

/-- How a region is painted. -/
inductive Paint where
  /-- With a color of the display lambda. -/
  | solid (color : String)
  /-- With a dither mask. -/
  | dither
deriving DecidableEq, Repr

/-- What a widget is drawn on: the device, and the theme of the page. -/
structure Surface where
  device : Device
  dark : Bool
deriving DecidableEq, Repr

namespace Surface

/-- The color of a token. -/
def color (s : Surface) (token : String) : Color := Color.resolve token s.dark

/-- The color of a token in the display lambda; what is transparent shows the page. -/
def direct (s : Surface) (token : String) : String :=
  ((s.color token).orBackground s.dark).direct s.device.invertedColors

/-- The color of a token in the widget tree. -/
def retained (s : Surface) (token : String) : String := (s.color token).retained

/-- The color of a token in the drawing protocols. -/
def protocol (s : Surface) (token : String) : String :=
  ((s.color token).orBackground s.dark).protocol

/-- The token of the page. -/
def backgroundToken (s : Surface) : String := if s.dark then "black" else "white"

/-- The page in the display lambda. -/
def background (s : Surface) : String := s.direct s.backgroundToken

/-- How a fill or a border is painted. -/
def paint (s : Surface) (token : String) : Paint :=
  let c := s.color token
  if c.needsDither s.device.paletteLimited then .dither
  else .solid ((c.orBackground s.dark).direct s.device.invertedColors)

end Surface

end DisplayLayout
