import DisplayLayout.Widget.Binding

/-!
# Instruments

Meters and charts of the widget tree.
-/

namespace DisplayLayout.Instrument

open Binding

/-! ## Meters -/

/-- The properties of a meter. -/
def meterTable : PropertyTable :=
  [.int "value" 0, .int "min" 0, .int "max" 100, .text "bg_color" "#d3d3d3", .text "color" "black",
    .text "indicator_color" "red", .int "tick_count" 11, .int "tick_length" 10,
    .int "scale_width" 10, .int "indicator_width" 4, .int "label_gap" 10, .int "opa" 255]

/-- The identifier of the needle. -/
def needleId (v : View) : String := v.identWith "_ind"

/-- The needle: a line up to the inner edge of the scale. -/
def needle (v : View) (s : Surface) : Json :=
  Node.of "line"
    [("id", .string (needleId v)), ("value", stateOr (numeric? v) (.int (v.int "value"))),
      ("color", Node.color v s "indicator_color"), ("width", Node.atLeast v "indicator_width" 1),
      ("r_mod", .int (Numeric.clampInt64 (-v.int "scale_width")))]

/-- The ticks of the scale; every fifth part of them is a major one. -/
def ticks (v : View) (s : Surface) : Json :=
  let count := max 2 (v.int "tick_count")
  let length := max 1 (v.int "tick_length")
  let color := Node.color v s "color"
  .object
    [("count", .int count), ("length", .int length), ("width", .int 2), ("color", color),
      ("major", .object
        [("stride", .int (max 1 (count / 5))), ("length", .int (Numeric.clampInt64 (length + 5))),
          ("width", .int 3), ("color", color), ("label_gap", .int (v.int "label_gap"))])]

/-- The scale: three quarters of a turn, open at the bottom. -/
def scale (v : View) (s : Surface) : Json :=
  .object
    [("range_from", .int (v.int "min")), ("range_to", .int (v.int "max")), ("angle_range", .int 270),
      ("rotation", .int 135), ("ticks", ticks v s), ("indicators", .array [needle v s])]

def meterNode (v : View) (s : Surface) : Branch :=
  Node.branch "meter" (Node.geometry v ++
    [("bg_color", Node.color v s "bg_color"), ("opa", Node.opacity v),
      ("scales", .array [scale v s])])

/-- The directive that moves the needle and leaves the rest of the meter as it is. -/
def moveNeedle (v : View) : String :=
  Text.join "\n"
    ["- lvgl.indicator.update:", "    id: " ++ needleId v, "    value: !lambda \"return x;\""]

/-- The type of meters. -/
def meter : Behaviour where
  modes := .retainedOnly
  size := (140, 140)
  table := meterTable
  retained := meterNode
  sensors v _ := ((numeric? v).map (·.withRefresh (moveNeedle v))).toList

/-! ## Charts -/

/-- The properties of a chart. -/
def chartTable : PropertyTable :=
  [.text "title" "Chart", .text "chart_type" "line", .text "color" "blue", .text "bg_color" "white",
    .int "point_count" 10, .int "x_div_lines" 3, .int "y_div_lines" 3, .int "opa" 255]

def chartNode (v : View) (s : Surface) : Branch :=
  let color := Node.color v s "color"
  let yLines := max 0 (v.int "y_div_lines")
  let title := Node.of "label"
    [("align", .string "TOP_MID"), ("text", Node.text v "title"), ("text_color", color)]
  Node.branch "lv_chart" (Node.geometry v ++
    [("type", .string (Node.word v "chart_type")), ("bg_color", Node.color v s "bg_color"),
      ("border_color", color), ("border_width", .int 1), ("opa", Node.opacity v),
      ("point_count", Node.atLeast v "point_count" 1),
      ("div_line_count", .object [("x", Node.atLeast v "x_div_lines" 0), ("y", .int yLines)]),
      ("series", .array [.object [("color", color)]]),
      ("y_axis", .object
        [("show_labels", .bool true), ("num_ticks", .int (Numeric.clampInt64 (yLines + 1)))]),
      ("widgets", .array [title])])

/-- The type of charts. -/
def chart : Behaviour where
  modes := .retainedOnly
  size := (200, 150)
  table := chartTable
  retained := chartNode

end DisplayLayout.Instrument
