import DisplayLayout.Widget.Element
import DisplayLayout.Widget.PointList

/-!
# Figures

What only the drawing protocols can draw. Both protocols take the same
elements, but for the sequence of icons.
-/

namespace DisplayLayout.Figure

/-- The color of a property; null if the property is blank. -/
def optionalColor (v : View) (s : Surface) (key : String) : Json :=
  match Text.nonBlank? (v.text key) with
  | some token => .string (s.protocol token)
  | none => .null

/-- The color of a property. -/
def color (v : View) (s : Surface) (key : String) : Json := .string (s.protocol (v.text key))

/-- The number of a property, but not below a bound. -/
def atLeast (v : View) (key : String) (least : Int) : Json := .int (max least (v.int key))

/-- The upper left corner of a widget under the keys that most figures use. -/
def start (v : View) : List (String × Json) :=
  [("x_start", .int v.widget.x), ("y_start", .int v.widget.y)]

/-- The lower right corner of a widget, moved into the range of coordinates. -/
def finish (v : View) : List (String × Json) :=
  [("x_end", .int (Numeric.clampInt32 (v.widget.x + v.widget.width))),
    ("y_end", .int (Numeric.clampInt32 (v.widget.y + v.widget.height)))]

/-- The lower right corner of a widget as it is added up, whatever comes out. -/
def corner (v : View) : List (String × Json) :=
  [("x_end", .int (v.widget.x + v.widget.width)), ("y_end", .int (v.widget.y + v.widget.height))]

/-- An element of a type. -/
def of (type : String) (entries : List (String × Json)) : Json :=
  .object (("type", .string type) :: entries)

/-! ## Outlines -/

/-- The properties of an ellipse. -/
def ellipseTable : PropertyTable :=
  [.text "fill" "", .text "outline" "black", .int "border_width" 1]

def ellipseElement (v : View) (s : Surface) : Json :=
  of "ellipse" (start v ++ corner v ++
    [("fill", optionalColor v s "fill"), ("outline", color v s "outline"),
      ("width", atLeast v "border_width" 0)])

/-- The type of ellipses. -/
def ellipse : Behaviour where
  modes := .protocols
  size := (100, 60)
  table := ellipseTable
  element _ v s := some (ellipseElement v s)

/-- The properties of a polygon. -/
def polygonTable : PropertyTable :=
  [.text "points" "0,0;50,0;25,40", .text "fill" "", .text "outline" "black", .int "border_width" 1]

/-- A polygon has at least three corners. -/
def polygonElement (v : View) (s : Surface) : Option Json :=
  let points := PointList.relativeTo (v.widget.x, v.widget.y) (v.text "points")
  if points.length < 3 then none
  else some <| of "polygon"
    [("points", .array (points.map fun p => .array [.int p.1, .int p.2])),
      ("fill", optionalColor v s "fill"), ("outline", color v s "outline"),
      ("width", atLeast v "border_width" 0)]

/-- The type of polygons. -/
def polygon : Behaviour where
  modes := .protocols
  size := (60, 50)
  table := polygonTable
  element _ v s := polygonElement v s

/-- The properties of an arc. -/
def arcTable : PropertyTable :=
  [.int "start_angle" 0, .int "end_angle" 90, .text "outline" "black", .int "border_width" 2]

def arcElement (v : View) (s : Surface) : Json :=
  of "arc"
    [("x", .int v.box.centerX), ("y", .int v.box.centerY),
      ("radius", .int (max 1 (Int.tdiv v.box.shortSide 2))),
      ("start_angle", .int (v.int "start_angle")), ("end_angle", .int (v.int "end_angle")),
      ("outline", color v s "outline"), ("width", atLeast v "border_width" 1)]

/-- The type of arcs. -/
def arcOutline : Behaviour where
  modes := .protocols
  size := (100, 100)
  table := arcTable
  element _ v s := some (arcElement v s)

/-! ## Texts and icons -/

/-- The properties of a text of several lines. -/
def multilineTable : PropertyTable :=
  [.text "value" "Line 1|Line 2", .text "delimiter" "|", .int "font_size" 16, .int "offset_y" 20,
    .text "color" "theme_auto"]

/-- What stands between two lines. -/
def delimiter (v : View) : String :=
  let d := v.text "delimiter"
  if d.isEmpty then "|" else d

def multilineElement (v : View) (s : Surface) : Json :=
  of "multiline"
    [("value", .string (v.text "value")), ("delimiter", .string (delimiter v)),
      ("x", .int v.widget.x), ("y", .int v.widget.y), ("offset_y", atLeast v "offset_y" 1),
      ("size", .nat (v.size "font_size" 1)), ("color", color v s "color"),
      ("font", .string Element.fontFile)]

/-- The type of texts of several lines. -/
def multiline : Behaviour where
  modes := .protocols
  size := (200, 60)
  table := multilineTable
  element _ v s := some (multilineElement v s)

/-- The properties of a sequence of icons. -/
def sequenceTable : PropertyTable :=
  [.text "icons" "mdi:home,mdi:arrow-right,mdi:office-building", .int "size" 24,
    .text "direction" "right", .int "spacing" 6, .text "fill" "black"]

/-- Where the next icon of a sequence stands. -/
def direction (v : View) : String :=
  let word := Text.lower (Text.trim (v.text "direction"))
  if word.isEmpty then "right" else word

/-- The icons are laid out by the display. Only the second protocol can hide them. -/
def sequenceElement (p : Protocol) (v : View) (s : Surface) : Option Json :=
  let icons := Text.fields ',' (v.text "icons")
  let visible := match p with
    | .a => []
    | .b => [("visible", Json.bool true)]
  if icons.isEmpty then none
  else some <| of "icon_sequence" <| visible ++
    [("x", .int v.widget.x), ("y", .int v.widget.y), ("icons", .array (icons.map .string)),
      ("size", .nat (v.size "size" 1)), ("direction", .string (direction v)),
      ("spacing", atLeast v "spacing" 0), ("fill", color v s "fill")]

/-- The type of sequences of icons. -/
def iconSequence : Behaviour where
  modes := .protocols
  size := (120, 30)
  table := sequenceTable
  element := sequenceElement

/-! ## Grids and plots -/

/-- The properties of a grid. -/
def gridTable : PropertyTable := [.int "spacing" 20, .text "line_color" "gray"]

/-- A grid covers the whole screen. -/
def gridElement (v : View) (s : Surface) : Json :=
  of "debug_grid" [("spacing", atLeast v "spacing" 2), ("line_color", color v s "line_color")]

/-- The type of grids. -/
def debugGrid : Behaviour where
  modes := .protocols
  table := gridTable
  element _ v s := some (gridElement v s)

/-- The properties of a plot. -/
def plotTable : PropertyTable :=
  [.int "duration" 36400, .text "color" "black", .int "line_width" 1, .flag "smooth" true,
    .flag "show_points" true, .int "point_size" 3, .text "point_color" "black"]

/-- The entity of a plot that has none. -/
def plotEntity : String := "sensor.temperature"

/-- The history of the entity of a plot. -/
def series (v : View) (s : Surface) : Json :=
  .object
    [("entity", .string (v.entity?.getD plotEntity)), ("color", color v s "color"),
      ("width", atLeast v "line_width" 1), ("smooth", .bool (v.flag "smooth")),
      ("show_points", .bool (v.flag "show_points")), ("point_size", atLeast v "point_size" 1),
      ("point_color", color v s "point_color")]

def plotElement (v : View) (s : Surface) : Json :=
  of "plot" (start v ++ finish v ++
    [("duration", atLeast v "duration" 1), ("data", .array [series v s])])

/-- The type of plots. -/
def plot : Behaviour where
  modes := .protocols
  size := (200, 100)
  table := plotTable
  element _ v s := some (plotElement v s)

/-- The properties of a pattern of rectangles. -/
def patternTable : PropertyTable :=
  [.int "x_size" 30, .int "y_size" 15, .int "x_offset" 5, .int "y_offset" 5, .int "x_repeat" 3,
    .int "y_repeat" 2, .text "fill" "white", .text "outline" "black", .int "border_width" 1]

/-- Equal rectangles, repeated to the right and down. -/
def patternElement (v : View) (s : Surface) : Json :=
  of "rectangle_pattern" (start v ++
    [("x_size", atLeast v "x_size" 1), ("y_size", atLeast v "y_size" 1),
      ("x_offset", atLeast v "x_offset" 0), ("y_offset", atLeast v "y_offset" 0),
      ("x_repeat", atLeast v "x_repeat" 1), ("y_repeat", atLeast v "y_repeat" 1),
      ("fill", color v s "fill"), ("outline", color v s "outline"),
      ("width", atLeast v "border_width" 1)] ++ finish v)

/-- The type of patterns of rectangles. -/
def rectanglePattern : Behaviour where
  modes := .protocols
  size := (120, 80)
  table := patternTable
  element _ v s := some (patternElement v s)

end DisplayLayout.Figure
