import DisplayLayout.Lambda.Statement
import DisplayLayout.Widget.Behaviour

/-!
# Graphs

The history of a sensor. Without a sensor only the frame is drawn.
-/

namespace DisplayLayout.Graph

/-- The properties of a graph. -/
def table : PropertyTable :=
  [.text "duration" "1h", .text "line_color" "theme_auto", .flag "border" true,
    .text "min_value" "", .text "max_value" ""]

/-- The identifier of the component that collects the history. -/
def componentId (v : View) : String := "graph_" ++ v.ident

/-- The sensor of a graph. -/
def sensor? (v : View) : Option Sensor := v.entity?.map (Sensor.of .numeric)

/-- The line of a bound, if the property is a finite number. -/
def boundLine (v : View) (key : String) : List String :=
  match Numeric.readFloat? (Text.trim (v.text key)) with
  | some x => if x.isFinite then ["    " ++ key ++ ": " ++ Numeric.plainText x] else []
  | none => []

/-- The report about a graph without a sensor. -/
def frameEvent (v : View) : Event :=
  ⟨.debug, "graph without a sensor drawn as an empty frame", [("widget", .text v.widget.id)]⟩

def direct (v : View) (s : Surface) : Drawing :=
  let color := s.direct (v.text "line_color")
  match sensor? v with
  | none =>
    .event (frameEvent v) ++ .when (v.flag "border") (.line (Lambda.outlineRect v.box color))
  | some _ => .line (s!"it.graph({v.widget.x}, {v.widget.y}, id(" ++ componentId v ++ "), " ++ color ++ ");")

def components (v : View) (_ : Surroundings) : List Component :=
  match sensor? v with
  | none => []
  | some sensor =>
    [⟨"graph", componentId v,
      ["  - id: " ++ componentId v, "    sensor: " ++ sensor.id,
        "    duration: " ++ Text.trim (v.text "duration"), s!"    width: {v.widget.width}",
        s!"    height: {v.widget.height}", "    border: " ++ flagText (v.flag "border")]
      ++ boundLine v "min_value" ++ boundLine v "max_value"⟩]

/-- The type of graphs. -/
def behaviour : Behaviour where
  modes := .directOnly
  size := (200, 100)
  table := table
  direct := direct
  sensors v _ := (sensor? v).toList
  components := components

end DisplayLayout.Graph
