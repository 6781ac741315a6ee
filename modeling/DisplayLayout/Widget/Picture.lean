import DisplayLayout.Widget.Binding
import DisplayLayout.Widget.PointList

/-!
# Pictures

Nodes of the widget tree that only show something: symbols, images and lines.
-/

namespace DisplayLayout.Picture

open Binding

/-! ## Symbols -/

/-- The properties of a symbol. -/
def symbolTable : PropertyTable :=
  [.text "text" "https://esphome.io", .text "color" "black", .text "bg_color" "white"]

/-- The text of a symbol: the reading, or that of its property. -/
def symbolText (v : View) : Json :=
  match text? v with
  | some sensor => Node.lambda ("return " ++ Lambda.state sensor.id ++ ".c_str();")
  | none => Node.text v "text"

def symbolNode (v : View) (s : Surface) : Branch :=
  Node.branch "qrcode" (Node.geometry v ++
    [("text", symbolText v), ("size", .int (max 1 v.box.shortSide)),
      ("dark_color", Node.color v s "color"), ("light_color", Node.color v s "bg_color")])

/-- The type of symbols. -/
def symbol : Behaviour where
  modes := .retainedOnly
  size := (130, 130)
  table := symbolTable
  retained := symbolNode
  sensors v _ := refreshed text? v

/-! ## Images -/

/-- The properties of an image. -/
def imageTable : PropertyTable :=
  [.text "src" "symbol_image", .int "rotation" 0, .text "color" "black", .int "pivot_x" 0,
    .int "pivot_y" 0]

/-- The asset that an image shows. -/
def imageSource (v : View) : String := (Text.nonBlank? (v.text "src")).getD "symbol_image"

def imageNode (v : View) (s : Surface) : Branch :=
  Node.branch "image" (Node.geometry v ++
    [("src", .string (imageSource v)), ("angle", .int (v.int "rotation")),
      ("pivot_x", .int (v.int "pivot_x")), ("pivot_y", .int (v.int "pivot_y")),
      ("image_recolor", Node.color v s "color"), ("image_recolor_opa", .string "COVER")])

/-- The type of images. -/
def image : Behaviour where
  modes := .retainedOnly
  table := imageTable
  retained := imageNode

/-! ## Lines -/

/-- The properties of a line through points. -/
def lineTable : PropertyTable :=
  [.text "points" "", .int "line_width" 3, .text "line_color" "black",
    .text "orientation" "horizontal", .flag "line_rounded" true, .int "opa" 255]

/-- The end of a line that crosses the whole widget. -/
def farEnd (v : View) : Int × Int :=
  if Node.word v "orientation" = "VERTICAL" then (0, v.widget.height) else (v.widget.width, 0)

/-- The points of a line, relative to the widget: those of its property if there are two, or
the ends of a line that crosses the widget. -/
def linePoints (v : View) : List (Int × Int) :=
  let points := (Text.words (v.text "points")).filterMap
    (PointList.point? Numeric.minInt64 Numeric.maxInt64)
  if 2 ≤ points.length then points else [(0, 0), farEnd v]

def lineNode (v : View) (s : Surface) : Branch :=
  let points := (linePoints v).map fun p => Json.object [("x", .int p.1), ("y", .int p.2)]
  Node.branch "line" (Node.geometry v ++
    [("points", .array points), ("line_width", Node.atLeast v "line_width" 1),
      ("line_color", Node.color v s "line_color"), ("line_rounded", Node.flag v "line_rounded"),
      ("opa", Node.opacity v)])

/-- The type of lines through points. -/
def line : Behaviour where
  modes := .retainedOnly
  size := (100, 3)
  table := lineTable
  retained := lineNode

end DisplayLayout.Picture
