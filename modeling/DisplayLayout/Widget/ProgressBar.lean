import DisplayLayout.Lambda.Statement
import DisplayLayout.Widget.Element
import DisplayLayout.Widget.Node

/-!
# Progress bars

A bar that is filled as far as a sensor between 0 and 100 says, below a row
with a title and the percentage.
-/

namespace DisplayLayout.ProgressBar

/-- The properties of a progress bar. -/
def table : PropertyTable :=
  [.flag "show_label" true, .flag "show_percentage" true, .int "bar_height" 15,
    .int "border_width" 1, .int "font_size" 12, .text "color" "theme_auto"]

/-- Whether the title is shown, and whether there is a row for texts at all. -/
def showsLabel (v : View) : Bool := v.flag "show_label" && v.heading?.isSome
def showsPercentage (v : View) : Bool := v.flag "show_percentage"
def hasRow (v : View) : Bool := showsLabel v || showsPercentage v

/-- The title, or nothing. -/
def heading (v : View) : String := v.heading?.getD ""

/-- The height of the row for texts. -/
def rowHeight (v : View) : Int := if hasRow v then max 1 (v.int32 "font_size") + 4 else 0

/-- The box of the bar. -/
def barBox (v : View) : Rect :=
  { x := v.widget.x
    y := v.widget.y + rowHeight v
    w := v.widget.width
    h := max 1 (min (v.int32 "bar_height") (v.widget.height - rowHeight v)) }

/-- The width of the border: at most half the height of the bar. -/
def border (v : View) : Int := max 0 (min (v.int32 "border_width") (Int.tdiv (barBox v).h 2))

/-- The sensor of the progress. -/
def sensor? (v : View) : Option Sensor := v.entity?.map (Sensor.of .numeric)

/-- The font of the row. -/
def font (v : View) : Font := Font.of "Roboto" 400 (v.size "font_size" 1) false

/-- The border of the bar. -/
def borderDrawing (v : View) (s : Surface) : Drawing :=
  match s.paint (v.text "color") with
  | .solid color => .ofLines ((Lambda.outlineBorder (barBox v) (border v) color).map Lambda.indent)
  | .dither =>
    if 0 < border v then
      let band := DitherShape.rectBand (barBox v) (border v)
      .helper band.helper ++ .ofLines (band.statements.map Lambda.indent)
    else {}

/-- The filled part of the bar, `progress_fill` wide. -/
def fillDrawing (v : View) (s : Surface) : Drawing :=
  let inner := (barBox v).inset (border v)
  let height := max 0 inner.h
  let lead := "  if (progress_fill > 0) "
  match s.paint (v.text "color") with
  | .dither =>
    .helper .ditherRect
      ++ .line (lead ++ s!"apply_grey_dither_mask({inner.x}, {inner.y}, progress_fill, {height});")
  | .solid color =>
    .line (lead ++ s!"it.filled_rectangle({inner.x}, {inner.y}, progress_fill, {height}, {color});")

/-- The calls that draw the row. -/
def rowCalls (v : View) (s : Surface) : List String :=
  let color := s.direct (v.text "color")
  (if showsLabel v then
      [Lambda.print ⟨v.widget.x, v.widget.y, (font v).id, color, .topLeft⟩ (heading v)]
    else [])
  ++ if showsPercentage v then
      [Lambda.printf ⟨v.widget.x + v.widget.width, v.widget.y, (font v).id, color, ⟨.right, .top⟩⟩
        "%.0f%%" "progress_value"]
    else []

def direct (v : View) (s : Surface) : Drawing :=
  let source := match sensor? v with
    | some sensor => Lambda.state sensor.id
    | none => "0"
  let width := max 0 ((barBox v).inset (border v)).w
  .font (font v)
    ++ .ofLines
      (["\x7b", "  float progress_value = " ++ source ++ ";",
        "  if (isnan(progress_value) || progress_value < 0) progress_value = 0;",
        "  if (progress_value > 100) progress_value = 100;",
        s!"  int progress_fill = (int) ({width} * progress_value / 100.0f);"]
      ++ (rowCalls v s).map Lambda.indent)
    ++ borderDrawing v s ++ fillDrawing v s ++ .line "\x7d"

/-- The text of the row in the widget tree. -/
def rowText (v : View) : Json :=
  let title := if showsLabel v then heading v ++ " " else ""
  if showsPercentage v then
    match sensor? v with
    | some s =>
      Node.lambda ("return str_sprintf(\"" ++ Lambda.escapeFormat title ++ "%.0f%%\", "
        ++ Lambda.state s.id ++ ");")
    | none => .string (title ++ "0%")
  else .string (String.ofList (Text.dropTrailingBlanks title.toList))

def retained (v : View) (s : Surface) : Branch :=
  let color := s.retained (v.text "color")
  let label := Node.of "label"
    [("id", .string (v.identWith "_label")), ("x", .int 0), ("y", .int 0), ("text", rowText v),
      ("text_font", .string (font v).id), ("text_color", .string color)]
  let value := match sensor? v with
    | some sensor => Node.lambda ("return " ++ Lambda.state sensor.id ++ ";")
    | none => .int 0
  let bar := Node.of "bar"
    [("id", .string (v.identWith "_bar")), ("x", .int 0), ("y", .int (rowHeight v)),
      ("width", .int v.widget.width), ("height", .int (barBox v).h), ("min_value", .int 0),
      ("max_value", .int 100), ("value", value), ("border_width", .int (border v)),
      ("border_color", .string color), ("indicator", .object [("bg_color", .string color)])]
  ⟨some (Node.container v ((if hasRow v then [label] else []) ++ [bar])),
    .when (hasRow v) (.font (font v))⟩

def element (p : Protocol) (v : View) (s : Surface) : Option Json :=
  let bar := barBox v
  let color := v.text "color"
  let progress := match sensor? v with
    | some sensor => Element.placeholder (Element.state sensor.entityId ++ " | float(0) | int")
    | none => "0"
  let kind := match p with
    | .a => "progress_bar"
    | .b => "progress"
  Element.all <|
    (if showsLabel v then
        [Element.text p s (heading v) (v.widget.x, v.widget.y) (v.size "font_size" 1) color .topLeft
          (some v.widget.width)]
      else [])
    ++ [.object <|
      [("type", .string kind), ("x_start", .int bar.x), ("y_start", .int bar.y),
        ("x_end", .int (bar.x + bar.w)), ("y_end", .int (bar.y + bar.h)),
        ("progress", .string progress), ("fill", .string (s.protocol color)),
        ("outline", .string (s.protocol color)), ("width", .int (border v)),
        ("show_percentage", .bool (showsPercentage v))]
      ++ match p with
        | .a => []
        | .b => [("direction", .string "right")]]

/-- The type of progress bars. -/
def behaviour : Behaviour where
  modes := .all
  size := (200, 40)
  table := table
  requirements v := .when (hasRow v) (.font (font v))
  direct := direct
  retained := retained
  element := element
  sensors v _ := (sensor? v).toList.map fun s =>
    (s.refreshing (v.identWith "_bar")).refreshing (v.identWith "_label")

end DisplayLayout.ProgressBar
