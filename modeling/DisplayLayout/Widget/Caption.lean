import DisplayLayout.Lambda.Statement
import DisplayLayout.Widget.Element
import DisplayLayout.Widget.Node

/-!
# Captions

Text that does not change. In the display lambda each of its lines is drawn by
a call of its own.
-/

namespace DisplayLayout.Caption

/-- The properties of a caption. -/
def table : PropertyTable :=
  [.text "text" "Text", .text "font_family" "Roboto", .int "font_size" 20, .int "font_weight" 400,
    .flag "italic" false, .text "color" "theme_auto", .text "text_align" "TOP_LEFT",
    .text "bg_color" "transparent"]

/-- The font of a caption. -/
def font (v : View) : Font :=
  Font.of (v.text "font_family") (v.weight "font_weight") (v.size "font_size" 1) (v.flag "italic")

/-- Fills the box of a widget with its background, unless that is transparent. -/
def background (v : View) (s : Surface) : Drawing :=
  let token := v.text "bg_color"
  if (s.color token).isTransparent then {}
  else match s.paint token with
    | .dither => .dither (.rect v.box)
    | .solid color => .line (Lambda.fillRect v.box color)

/-- The distance of lines. -/
def pitch (v : View) : Int := max 1 (v.int32 "font_size") + 4

def direct (v : View) (s : Surface) : Drawing :=
  let f := font v
  let align := v.align "text_align"
  let (x, y) := align.anchor v.box
  let rows := Text.splitOn '\n' (v.text "text").toList
  let places := align.lineOffsets y rows.length (pitch v)
  background v s ++ .font f
    ++ .ofLines ((rows.zip places).map fun (row, rowY) =>
      Lambda.print ⟨x, rowY, f.id, s.direct (v.text "color"), align⟩ (String.ofList row))

def retained (v : View) (s : Surface) : Branch :=
  let f := font v
  let token := v.text "bg_color"
  Node.branch "label"
    (Node.geometry v ++
      [("text", .string (v.text "text")), ("text_font", .string f.id),
        ("text_color", .string (s.retained (v.text "color"))),
        ("text_align", .string (v.align "text_align").retained)]
      ++ if (s.color token).isTransparent then []
        else [("bg_color", .string (s.retained token)), ("bg_opa", .string "COVER")])
    (.font f)

def element (p : Protocol) (v : View) (s : Surface) : Option Json :=
  let align := v.align "text_align"
  some (Element.text p s (v.text "text") (align.anchor v.box) (v.size "font_size" 1) (v.text "color")
    align (some v.widget.width))

/-- The type of captions. -/
def behaviour : Behaviour where
  modes := .all
  table := table
  requirements v := .font (font v)
  direct := direct
  retained := retained
  element := element

end DisplayLayout.Caption
