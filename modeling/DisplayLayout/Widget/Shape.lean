import DisplayLayout.Lambda.Statement
import DisplayLayout.Widget.Element
import DisplayLayout.Widget.Node

/-!
# Shapes

Rectangles, rounded rectangles, circles and lines. The inside is drawn before
the border. A gray that the display does not have becomes a dither mask in
place of the solid shape, never in addition to it.
-/

namespace DisplayLayout.Shape

/-- Whether the inside is drawn. -/
def isFilled (v : View) : Bool := v.flag "fill"

/-- The width of the border: at most half the shorter side, but one pixel always fits. -/
def borderWidth (v : View) : Int :=
  max 0 (min (v.int32 "border_width") (max 1 (Int.tdiv v.box.shortSide 2)))

/-- Paints a region in the color of a property: a mask, or solid calls. -/
def painted (v : View) (s : Surface) (key : String) (mask : DitherShape) (solid : String → Drawing) :
    Drawing :=
  match s.paint (v.text key) with
  | .dither => .dither mask
  | .solid color => solid color

/-- The inside, if it is drawn, and then the border, if it has a width. -/
def fillThenBorder (v : View) (border : Int) (inside edge : Drawing) : Drawing :=
  .when (isFilled v) inside ++ .when (border != 0) edge

/-- A box in the widget tree, with a border and rounded corners. -/
def treeBox (v : View) (s : Surface) (border radius : Int) : Branch :=
  Node.branch "obj"
    (Node.geometry v ++
      [("bg_color", .string (s.retained (v.text "color"))),
        ("bg_opa", .string (if isFilled v then "COVER" else "TRANSP")), ("border_width", .int border),
        ("border_color", .string (s.retained (v.text "border_color"))), ("radius", .int radius),
        ("pad_all", .int 0)])

/-- The color of the inside in a protocol; null if it is not drawn. -/
def protocolFill (v : View) (s : Surface) : Json :=
  if isFilled v then .string (s.protocol (v.text "color")) else .null

/-- A rectangle in a protocol. -/
def rectangleElement (v : View) (s : Surface) (border radius : Int) : Json :=
  let w := v.widget
  .object <|
    [("type", .string "rectangle"), ("x_start", .int w.x), ("y_start", .int w.y),
      ("x_end", .int (w.x + w.width)), ("y_end", .int (w.y + w.height)), ("fill", protocolFill v s),
      ("outline", .string (s.protocol (v.text "border_color"))), ("width", .int border)]
    ++ if 0 < radius then [("radius", .int radius)] else []

end DisplayLayout.Shape

namespace DisplayLayout.PlainRect

open Shape

/-- The properties of a rectangle. -/
def table : PropertyTable :=
  [.flag "fill" false, .int "border_width" 1, .text "color" "theme_auto",
    .sameAs "border_color" "color"]

def direct (v : View) (s : Surface) : Drawing :=
  let box := v.box
  let border := borderWidth v
  fillThenBorder v border
    (painted v s "color" (.rect box) fun color => .line (Lambda.fillRect box color))
    (painted v s "border_color" (.rectBand box border) fun color =>
      .ofLines (Lambda.outlineBorder box border color))

/-- The type of rectangles. -/
def behaviour : Behaviour where
  modes := .all
  table := table
  direct := direct
  retained v s := treeBox v s (borderWidth v) 0
  element _ v s := some (rectangleElement v s (borderWidth v) 0)

end DisplayLayout.PlainRect

namespace DisplayLayout.RoundedRect

open Shape

/-- The properties of a rounded rectangle. -/
def table : PropertyTable :=
  [.flag "fill" false, .flag "show_border" true, .int "border_width" 4, .int "radius" 10,
    .text "color" "theme_auto", .sameAs "border_color" "color"]

/-- The width of the border, which can be switched off. -/
def border (v : View) : Int := if v.flag "show_border" then borderWidth v else 0

/-- The radius of the corners: at most half the shorter side. -/
def radius (v : View) : Int :=
  max 0 (min (v.int32 "radius") (Int.tdiv v.box.shortSide 2))

def direct (v : View) (s : Surface) : Drawing :=
  let box := v.box
  let r := radius v
  let band := border v
  fillThenBorder v band
    (painted v s "color" (.roundedRect box r 0) fun color =>
      .helper .filledRoundedRect
        ++ .line s!"draw_filled_rrect({box.x}, {box.y}, {box.w}, {box.h}, {r}, {color});")
    (painted v s "border_color" (.roundedRect box r band) fun color =>
      .helper .roundedRectBorder
        ++ .line s!"draw_rrect_border({box.x}, {box.y}, {box.w}, {box.h}, {r}, {band}, {color});")

/-- The type of rounded rectangles. -/
def behaviour : Behaviour where
  modes := .all
  table := table
  direct := direct
  retained v s := treeBox v s (border v) (radius v)
  element _ v s := some (rectangleElement v s (border v) (radius v))

end DisplayLayout.RoundedRect

namespace DisplayLayout.Circle

open Shape

/-- The properties of a circle. -/
def table : PropertyTable :=
  [.flag "fill" false, .int "border_width" 1, .text "color" "theme_auto",
    .sameAs "border_color" "color"]

/-- The radius of the largest circle in the box. -/
def radius (v : View) : Int := max 1 (Int.tdiv v.box.shortSide 2)

def direct (v : View) (s : Surface) : Drawing :=
  let (x, y, r) := (v.box.centerX, v.box.centerY, radius v)
  let band := min (borderWidth v) r
  fillThenBorder v band
    (painted v s "color" (.circle x y r 0) fun color =>
      .line (Lambda.shape "filled_circle" [x, y, r] color))
    (painted v s "border_color" (.circle x y r band) fun color =>
      .ofLines ((List.range band.toNat).map fun (i : Nat) =>
        Lambda.shape "circle" [x, y, r - (i : Int)] color))

def element (_ : Protocol) (v : View) (s : Surface) : Option Json :=
  some (.object
    [("type", .string "circle"), ("x", .int v.box.centerX), ("y", .int v.box.centerY),
      ("radius", .int (radius v)), ("fill", protocolFill v s),
      ("outline", .string (s.protocol (v.text "border_color"))), ("width", .int (borderWidth v))])

/-- The type of circles. -/
def behaviour : Behaviour where
  modes := .all
  table := table
  direct := direct
  retained v s := treeBox v s (borderWidth v) (radius v)
  element := element

end DisplayLayout.Circle

namespace DisplayLayout.StraightLine

open Shape

/-- The properties of a line. -/
def table : PropertyTable :=
  [.int "stroke_width" 3, .text "color" "theme_auto", .text "orientation" "horizontal"]

/-- Whether a line goes down instead of to the right. -/
def isVertical (v : View) : Bool := Text.lower (Text.trim (v.text "orientation")) == "vertical"

/-- The width of the stroke. -/
def stroke (v : View) : Int := max 1 (v.int32 "stroke_width")

/-- The end of a line that starts at the corner of the widget. -/
def endPoint (v : View) : Int × Int :=
  if isVertical v then (v.widget.x, v.widget.y + v.widget.height)
  else (v.widget.x + v.widget.width, v.widget.y)

/-- The box that a line covers. -/
def strokeBox (v : View) : Rect :=
  if isVertical v then ⟨v.widget.x, v.widget.y, stroke v, v.widget.height⟩
  else ⟨v.widget.x, v.widget.y, v.widget.width, stroke v⟩

def direct (v : View) (s : Surface) : Drawing :=
  let box := strokeBox v
  painted v s "color" (.rect box) fun color =>
    if stroke v = 1 then
      let (x, y) := endPoint v
      .line (Lambda.shape "line" [v.widget.x, v.widget.y, x, y] color)
    else .line (Lambda.fillRect box color)

def retained (v : View) (s : Surface) : Branch :=
  let last := if isVertical v then s!"0,{v.widget.height}" else s!"{v.widget.width},0"
  Node.branch "line"
    [("id", .string v.ident), ("x", .int v.widget.x), ("y", .int v.widget.y),
      ("points", .array [.string "0,0", .string last]), ("line_width", .int (stroke v)),
      ("line_color", .string (s.retained (v.text "color")))]

def element (p : Protocol) (v : View) (s : Surface) : Option Json :=
  let (x, y) := endPoint v
  let colorKey := match p with
    | .a => "fill"
    | .b => "color"
  some (.object
    [("type", .string "line"), ("x_start", .int v.widget.x), ("y_start", .int v.widget.y),
      ("x_end", .int x), ("y_end", .int y), ("width", .int (stroke v)),
      (colorKey, .string (s.protocol (v.text "color")))])

/-- The type of lines. -/
def behaviour : Behaviour where
  modes := .all
  table := table
  direct := direct
  retained := retained
  element := element

end DisplayLayout.StraightLine
